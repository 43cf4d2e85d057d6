-- SUMMARY: Splitting a text at a separator, joining pieces, and cutting at the first separator.

/-!
# Splitting and joining

`split` cuts a text at every separator and never returns an empty list of pieces;
`join` puts pieces together again. `cut` looks at the first separator only.
-/

namespace SdnZones.Text

/-! ## Characters -/

/-- The pieces between the separators; an empty text is one empty piece. -/
def split (sep : Char) : List Char → List (List Char)
  | [] => [[]]
  | c :: rest =>
    if c = sep then [] :: split sep rest
    else
      match split sep rest with
      | [] => [[c]]
      | piece :: pieces => (c :: piece) :: pieces

/-- The pieces with a separator between each two. -/
def join (sep : Char) : List (List Char) → List Char
  | [] => []
  | [piece] => piece
  | piece :: next :: pieces => piece ++ sep :: join sep (next :: pieces)

/-- What stands before and after the first separator. -/
def cut (sep : Char) : List Char → Option (List Char × List Char)
  | [] => none
  | c :: rest =>
    if c = sep then some ([], rest)
    else (cut sep rest).map fun (before, after) => (c :: before, after)

theorem split_ne_nil (sep : Char) (cs : List Char) : split sep cs ≠ [] := by
  induction cs with
  | nil => simp [split]
  | cons c rest ih =>
    by_cases h : c = sep
    · simp [split, h]
    · simp only [split, h, if_false]
      split <;> simp

/-- Joining undoes splitting. -/
theorem join_split (sep : Char) (cs : List Char) : join sep (split sep cs) = cs := by
  induction cs with
  | nil => rfl
  | cons c rest ih =>
    by_cases h : c = sep
    · subst h
      simp only [split, if_true]
      cases hs : split c rest with
      | nil => exact absurd hs (split_ne_nil c rest)
      | cons piece pieces => rw [hs] at ih; simp [join, ih]
    · simp only [split, h, if_false]
      cases hs : split sep rest with
      | nil => exact absurd hs (split_ne_nil sep rest)
      | cons piece pieces =>
        rw [hs] at ih
        cases pieces with
        | nil => simpa [join] using ih
        | cons next more => simpa [join] using ih

/-! ## Strings -/

/-- `split` on strings. -/
def splitString (sep : Char) (s : String) : List String :=
  (split sep s.toList).map String.ofList

/-- `join` on strings. -/
def joinString (sep : Char) (pieces : List String) : String :=
  String.ofList (join sep (pieces.map String.toList))

/-- `cut` on strings. -/
def cutString (sep : Char) (s : String) : Option (String × String) :=
  (cut sep s.toList).map fun (before, after) => (String.ofList before, String.ofList after)

/-- The texts with `sep` between each two. -/
def joinWith (sep : String) (texts : List String) : String :=
  sep.intercalate texts

/-- Whether `s` starts with `part`. -/
def startsWith (part s : String) : Bool := part.toList.isPrefixOf s.toList

/-- Whether `part` stands somewhere in `cs`. -/
def occursIn (part : List Char) : List Char → Bool
  | [] => part.isEmpty
  | c :: rest => part.isPrefixOf (c :: rest) || occursIn part rest

/-- Whether `part` stands somewhere in `s`. -/
def containsText (s part : String) : Bool := occursIn part.toList s.toList

/-- Every `old` replaced by `new`, from the left; an empty `old` changes nothing. -/
def replaceAll (old new : List Char) (cs : List Char) : List Char :=
  go cs.length cs
where
  go : Nat → List Char → List Char
    | 0, rest => rest
    | _, [] => []
    | fuel + 1, c :: rest =>
      if !old.isEmpty && old.isPrefixOf (c :: rest) then
        new ++ go fuel ((c :: rest).drop old.length)
      else c :: go fuel rest

end SdnZones.Text
