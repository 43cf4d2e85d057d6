-- SUMMARY: What survives when a list travels as one text with commas.
import SdnZones.Text.CommaList

/-!
# Comma lists, there and back

Splitting distributes over separators (`split_append`), so the pieces of a joined text are
the pieces of its elements in order (`splitString_joinWith`). A text has its pieces in one way
only (`Text.splitString_eq_iff`). It is therefore restored from its list unless it is empty
(`CommaList.join_split_eq_self_iff`), and a list from its text if it has elements, none of them
with a comma, and is not a single empty one (`CommaList.split_join_eq_self_iff`).

A zone that is read back leaves out empty elements as well (`CommaList.pruned`). What a comma list
carries of a list is then the pieces that are not empty (`CommaList.pruned_split_join`), and a list
is carried unchanged exactly if it is `CommaList.Faithful`. Of elements without commas only the
empty ones are lost, which shows in the text of the list (`CommaList.join_pruned_iff`).
-/

namespace SdnZones.Text

/-! ## Characters -/

theorem split_eq_splitOn (sep : Char) (cs : List Char) : split sep cs = cs.splitOn sep := by
  induction cs with
  | nil => simp [split]
  | cons c cs ih =>
    rw [split, List.splitOn_cons_eq_if_modifyHead, ih]
    by_cases h : c = sep
    · simp [h]
    · have ne := List.splitOn_ne_nil sep cs
      cases hs : cs.splitOn sep with
      | nil => exact absurd hs ne
      | cons piece pieces => simp [h]

theorem split_append (sep : Char) (before after : List Char) :
    split sep (before ++ sep :: after) = split sep before ++ split sep after := by
  simp only [split_eq_splitOn, List.splitOn_append_cons_self]

theorem split_of_not_mem {sep : Char} {cs : List Char} (h : sep ∉ cs) : split sep cs = [cs] := by
  rw [split_eq_splitOn, List.splitOn_eq_singleton h]

theorem not_mem_of_mem_split {sep : Char} {cs piece : List Char} (h : piece ∈ split sep cs) :
    sep ∉ piece := by
  induction cs generalizing piece with
  | nil =>
    rw [split, List.mem_singleton] at h
    simp [h]
  | cons c cs ih =>
    rw [split] at h
    by_cases hc : c = sep
    · rw [if_pos hc, List.mem_cons] at h
      rcases h with rfl | h
      · exact List.not_mem_nil
      · exact ih h
    · rw [if_neg hc] at h
      cases hs : split sep cs with
      | nil => exact absurd hs (split_ne_nil sep cs)
      | cons first others =>
        simp only [hs, List.mem_cons] at h ih
        rcases h with rfl | h
        · rw [List.mem_cons, not_or]
          exact ⟨fun e => hc e.symm, ih (.inl rfl)⟩
        · exact ih (.inr h)

theorem split_join (sep : Char) (piece : List Char) (pieces : List (List Char)) :
    split sep (join sep (piece :: pieces)) = (piece :: pieces).flatMap (split sep) := by
  induction pieces generalizing piece with
  | nil => simp [join]
  | cons next pieces ih =>
    rw [join, split_append, ih next]
    exact List.flatMap_cons.symm

/-- Splitting undoes joining if no piece holds the separator. -/
theorem split_join_of_not_mem {sep : Char} {pieces : List (List Char)} (ne : pieces ≠ [])
    (h : ∀ piece ∈ pieces, sep ∉ piece) : split sep (join sep pieces) = pieces := by
  have whole : pieces.flatMap (split sep) = pieces := by
    clear ne
    induction pieces with
    | nil => rfl
    | cons piece pieces ih =>
      obtain ⟨first, others⟩ := List.forall_mem_cons.1 h
      rw [List.flatMap_cons, split_of_not_mem first, ih others, List.singleton_append]
  cases pieces with
  | nil => exact absurd rfl ne
  | cons piece pieces => rw [split_join, whole]

/-! ## Strings -/

theorem toList_joinWith (sep : Char) {mark : String} (single : mark.toList = [sep])
    (texts : List String) : (joinWith mark texts).toList = join sep (texts.map String.toList) := by
  rw [joinWith, String.toList_intercalate, single]
  induction texts with
  | nil => rfl
  | cons text texts ih =>
    cases texts with
    | nil => simp [join]
    | cons next texts => simpa [join] using ih

/-- Joined texts without the separator are read as they were. -/
theorem splitString_joinWith_of_not_mem {sep : Char} {mark : String} (single : mark.toList = [sep])
    {texts : List String} (ne : texts ≠ []) (h : ∀ text ∈ texts, sep ∉ text.toList) :
    splitString sep (joinWith mark texts) = texts := by
  have pieces : ∀ piece ∈ texts.map String.toList, sep ∉ piece := by
    intro piece hpiece
    obtain ⟨text, htext, rfl⟩ := List.mem_map.1 hpiece
    exact h text htext
  rw [splitString, toList_joinWith sep single, split_join_of_not_mem (by simpa using ne) pieces,
    List.map_map]
  exact (List.map_congr_left fun text _ => String.ofList_toList).trans (List.map_id texts)

/-- The pieces of a joined text are those of its elements. -/
theorem splitString_joinWith (v : String) (vs : List String) :
    splitString ',' (joinWith "," (v :: vs)) = (v :: vs).flatMap (splitString ',') := by
  rw [splitString, toList_joinWith ',' rfl, List.map_cons, split_join, ← List.map_cons,
    List.flatMap_map, List.map_flatMap]
  rfl

theorem splitString_of_not_mem {sep : Char} {s : String} (h : sep ∉ s.toList) :
    splitString sep s = [s] := by
  rw [splitString, split_of_not_mem h, List.map_singleton, String.ofList_toList]

theorem not_mem_of_mem_splitString {sep : Char} {s piece : String}
    (h : piece ∈ splitString sep s) : sep ∉ piece.toList := by
  obtain ⟨cs, hcs, rfl⟩ := List.mem_map.1 h
  rw [String.toList_ofList]
  exact not_mem_of_mem_split hcs

theorem flatMap_splitString_of_not_mem {sep : Char} {values : List String}
    (h : ∀ v ∈ values, sep ∉ v.toList) : values.flatMap (splitString sep) = values := by
  induction values with
  | nil => rfl
  | cons v values ih =>
    rw [List.flatMap_cons, splitString_of_not_mem (h v List.mem_cons_self),
      ih fun w hw => h w (List.mem_cons_of_mem _ hw), List.singleton_append]

theorem flatMap_splitString_eq_self_iff {sep : Char} {values : List String} :
    values.flatMap (splitString sep) = values ↔ ∀ v ∈ values, sep ∉ v.toList := by
  constructor
  · intro same v hv
    rw [← same, List.mem_flatMap] at hv
    obtain ⟨whole, _, piece⟩ := hv
    exact not_mem_of_mem_splitString piece
  · exact flatMap_splitString_of_not_mem

/-! ## Pieces -/

/-- The texts between the separators of a text. Even the empty text has a piece, an empty one. -/
structure Pieces (sep : Char) (text : String) (pieces : List String) : Prop where
  ne_nil : pieces ≠ []
  free : ∀ piece ∈ pieces, sep ∉ piece.toList
  whole : joinWith (String.singleton sep) pieces = text

theorem splitString_ne_nil (sep : Char) (text : String) : splitString sep text ≠ [] :=
  mt List.map_eq_nil_iff.1 (split_ne_nil sep text.toList)

theorem joinWith_splitString {sep : Char} {mark : String} (single : mark.toList = [sep])
    (text : String) : joinWith mark (splitString sep text) = text := by
  have pieces : (splitString sep text).map String.toList = split sep text.toList := by
    rw [splitString, List.map_map]
    exact (List.map_congr_left fun piece _ => String.toList_ofList).trans (List.map_id _)
  rw [← String.toList_inj, toList_joinWith sep single, pieces, join_split]

/-- A text is split into its pieces, and it has no others. -/
theorem splitString_eq_iff {sep : Char} {text : String} {pieces : List String} :
    splitString sep text = pieces ↔ Pieces sep text pieces := by
  constructor
  · rintro rfl
    exact ⟨splitString_ne_nil sep text, fun _ => not_mem_of_mem_splitString,
      joinWith_splitString (String.toList_singleton sep) text⟩
  · rintro ⟨ne_nil, free, rfl⟩
    exact splitString_joinWith_of_not_mem (String.toList_singleton sep) ne_nil free

end SdnZones.Text

namespace SdnZones.CommaList

/-! ## There and back -/

theorem join_of_ne_nil {values : List String} (ne : values ≠ []) :
    join (some values) = some (Text.joinWith "," values) := by
  cases values with
  | nil => exact absurd rfl ne
  | cons v vs => rfl

theorem split_of_ne {text : String} (filled : text ≠ "") :
    split (some text) = some (Text.splitString ',' text) := by
  have notEmpty : ¬ text.isEmpty = true := mt String.isEmpty_iff.1 filled
  exact if_neg notEmpty

/-- A text that is not empty is read as the list of its pieces. -/
theorem split_eq_some_iff {text : Option String} {values : List String} :
    split text = some values ↔ ∃ s, text = some s ∧ s ≠ "" ∧ Text.Pieces ',' s values := by
  constructor
  · intro h
    cases text with
    | none => cases h
    | some s =>
      have filled : s ≠ "" := by
        rintro rfl
        cases h
      rw [split_of_ne filled] at h
      exact ⟨s, rfl, filled, Text.splitString_eq_iff.1 (Option.some.inj h)⟩
  · rintro ⟨s, rfl, filled, pieces⟩
    rw [split_of_ne filled, Text.splitString_eq_iff.2 pieces]

theorem join_split_eq_self_iff {text : Option String} :
    join (split text) = text ↔ text ≠ some "" := by
  constructor
  · rintro h rfl
    cases h
  · intro filled
    cases text with
    | none => rfl
    | some s =>
      rw [split_of_ne fun e => filled (congrArg some e),
        join_of_ne_nil (Text.splitString_ne_nil ',' s), Text.joinWith_splitString rfl]

theorem split_join_eq_self_iff {values : Option (List String)} :
    split (join values) = values ↔
      values = none ∨
        ∃ vs, values = some vs ∧ vs ≠ [] ∧ vs ≠ [""] ∧ ∀ v ∈ vs, ',' ∉ v.toList := by
  cases values with
  | none => exact iff_of_true rfl (.inl rfl)
  | some vs =>
    rw [split_eq_some_iff]
    constructor
    · rintro ⟨s, joined, filled, pieces⟩
      refine .inr ⟨vs, rfl, pieces.ne_nil, ?_, pieces.free⟩
      rintro rfl
      exact filled (Option.some.inj joined).symm
    · rintro (absent | ⟨ws, same, ne_nil, ne_lone, free⟩)
      · cases absent
      · obtain rfl := Option.some.inj same
        have pieces : Text.Pieces ',' (Text.joinWith "," vs) vs := ⟨ne_nil, free, rfl⟩
        refine ⟨_, join_of_ne_nil ne_nil, fun empty => ne_lone ?_, pieces⟩
        -- The only piece of the empty text is empty.
        rw [empty, ← Text.splitString_eq_iff] at pieces
        exact pieces.symm

/-! ## What is carried -/

/-- The elements that are not empty, if there are any. -/
def filled? (values : List String) : Option (List String) :=
  match values.filter (!·.isEmpty) with
  | [] => none
  | kept => some kept

/-- A list without its empty elements; a list that has no other elements is unset. -/
def pruned (values : Option (List String)) : Option (List String) := filled? (values.getD [])

/-- What a comma list carries of a list: the pieces of its elements that are not empty. -/
def carried (values : Option (List String)) : Option (List String) :=
  filled? ((values.getD []).flatMap (Text.splitString ','))

/-- A list that a comma list carries unchanged. -/
def Faithful (values : Option (List String)) : Prop :=
  ∀ vs, values = some vs → vs ≠ [] ∧ ∀ v ∈ vs, v ≠ "" ∧ ',' ∉ v.toList

theorem filled?_eq_some_iff {values kept : List String} :
    filled? values = some kept ↔ values.filter (!·.isEmpty) = kept ∧ kept ≠ [] := by
  unfold filled?
  cases values.filter (!·.isEmpty) with
  | nil =>
    constructor
    · intro h
      cases h
    · rintro ⟨rfl, ne⟩
      exact absurd rfl ne
  | cons v vs =>
    constructor
    · intro h
      cases h
      exact ⟨rfl, List.cons_ne_nil v vs⟩
    · rintro ⟨rfl, _⟩
      rfl

theorem pruned_split (text : String) :
    pruned (split (some text)) = filled? (Text.splitString ',' text) := by
  by_cases h : text = ""
  · subst h
    rfl
  · rw [split_of_ne h]
    rfl

/-- What is carried of a list is what is restored from its text, without empty elements. -/
theorem pruned_split_join (values : Option (List String)) :
    pruned (split (join values)) = carried values := by
  cases values with
  | none => rfl
  | some vs =>
    cases vs with
    | nil => rfl
    | cons v vs =>
      rw [join, pruned_split, Text.splitString_joinWith]
      rfl

/-- Of elements without commas those that are not empty are carried. -/
theorem carried_of_no_comma {values : Option (List String)}
    (h : ∀ v ∈ values.getD [], ',' ∉ v.toList) : carried values = pruned values := by
  rw [carried, Text.flatMap_splitString_of_not_mem h, pruned]

theorem filled?_eq_self {vs : List String} (ne : vs ≠ []) (h : ∀ v ∈ vs, v ≠ "") :
    filled? vs = some vs := by
  refine filled?_eq_some_iff.2 ⟨List.filter_eq_self.2 fun v hv => ?_, ne⟩
  simpa using h v hv

theorem carried_eq_self_iff {values : Option (List String)} :
    carried values = values ↔ Faithful values := by
  constructor
  · rintro h vs rfl
    obtain ⟨hkept, ne⟩ := filled?_eq_some_iff.1 h
    refine ⟨ne, fun v hv => ?_⟩
    rw [← hkept, List.mem_filter, List.mem_flatMap] at hv
    obtain ⟨⟨whole, _, hpiece⟩, filled⟩ := hv
    exact ⟨by simpa using filled, Text.not_mem_of_mem_splitString hpiece⟩
  · intro h
    cases values with
    | none => rfl
    | some vs =>
      obtain ⟨ne, hvs⟩ := h vs rfl
      have noComma : ∀ v ∈ (some vs).getD [], ',' ∉ v.toList := fun v hv => (hvs v hv).2
      rw [carried_of_no_comma noComma]
      exact filled?_eq_self ne fun v hv => (hvs v hv).1

example : carried (some ["pve1,,pve2", "", "pve3"]) = some ["pve1", "pve2", "pve3"] := by decide

/-! ## Empty elements -/

theorem mem_pruned_iff {values : Option (List String)} {v : String} :
    v ∈ (pruned values).getD [] ↔ v ∈ values.getD [] ∧ v ≠ "" := by
  have kept : (pruned values).getD [] = (values.getD []).filter (!·.isEmpty) := by
    rw [pruned, filled?]
    cases (values.getD []).filter (!·.isEmpty) <;> rfl
  rw [kept, List.mem_filter]
  simp

/-- Elements without commas can be told from the text of their list. -/
theorem join_inj {vs ws : List String} (hv : ∀ v ∈ vs, ',' ∉ v.toList)
    (hw : ∀ w ∈ ws, ',' ∉ w.toList) : join (some vs) = join (some ws) ↔ vs = ws := by
  constructor
  · intro h
    cases vs with
    | nil =>
      cases ws with
      | nil => rfl
      | cons w ws => cases h
    | cons v vs =>
      cases ws with
      | nil => cases h
      | cons w ws =>
        have pieces := congrArg (Text.splitString ',') (Option.some.inj h)
        rwa [Text.splitString_joinWith, Text.splitString_joinWith,
          Text.flatMap_splitString_of_not_mem hv, Text.flatMap_splitString_of_not_mem hw] at pieces
  · rintro rfl
    rfl

/-- Dropping empty elements shows in the text of a list exactly if there are any. -/
theorem join_pruned_iff {values : Option (List String)}
    (commaFree : ∀ v ∈ values.getD [], ',' ∉ v.toList) :
    join (pruned values) = join values ↔ "" ∉ values.getD [] := by
  cases values with
  | none => simp [pruned, filled?]
  | some vs =>
    cases vs with
    | nil => simp [pruned, filled?, join]
    | cons v vs =>
      constructor
      · intro h empty
        have keptCommaFree : ∀ w ∈ (pruned (some (v :: vs))).getD [], ',' ∉ w.toList := fun w hw =>
          commaFree w (mem_pruned_iff.1 hw).1
        cases hp : pruned (some (v :: vs)) with
        | none =>
          rw [hp] at h
          cases h
        | some kept =>
          rw [hp] at h keptCommaFree
          have same : kept = v :: vs := (join_inj keptCommaFree commaFree).1 h
          have keptEmpty : "" ∈ (pruned (some (v :: vs))).getD [] := by
            rw [hp, same]
            exact empty
          exact (mem_pruned_iff.1 keptEmpty).2 rfl
      · intro filled
        have same : pruned (some (v :: vs)) = some (v :: vs) :=
          filled?_eq_self (List.cons_ne_nil v vs) fun w hw e => filled (e ▸ hw)
        rw [same]

end SdnZones.CommaList
