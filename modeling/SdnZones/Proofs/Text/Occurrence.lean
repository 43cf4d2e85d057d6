-- SUMMARY: Where a text occurs, where it is cut, and that trimming leaves no white space around it.
import Mathlib.Data.List.Infix
import Mathlib.Data.List.TakeWhile
import SdnZones.Text.Blank
import SdnZones.Text.Split

/-!
# Occurrences

The search for a part of a text finds it exactly if it is there (`containsText_iff`). A part that
neither starts nor ends with white space is there after trimming if it was before
(`infix_trim`). Trimming itself is told by what it leaves (`trim_eq_iff`), and cutting by what
stands on either side of the first separator (`cut_eq_some_iff`).
-/

namespace SdnZones.Text

variable {part cs : List Char}

theorem occursIn_iff : occursIn part cs = true ↔ part <:+: cs := by
  induction cs with
  | nil => simp [occursIn]
  | cons c cs ih =>
    rw [occursIn, Bool.or_eq_true, List.isPrefixOf_iff_prefix, ih, List.infix_cons_iff]

theorem containsText_iff {s part : String} :
    containsText s part = true ↔ part.toList <:+: s.toList := occursIn_iff

/-! ## Trimming -/

theorem infix_trimStart (filled : part.head?.any isBlank = false) (occurs : part <:+: cs) :
    part <:+: trimStart cs := by
  induction cs with
  | nil => exact occurs
  | cons c cs ih =>
    rw [trimStart, List.dropWhile_cons]
    split
    · rename_i blank
      refine (List.infix_cons_iff.1 occurs).elim (fun start => ?_) ih
      -- a part that starts with white space is empty
      cases part with
      | nil => exact List.nil_infix
      | cons d rest =>
        obtain ⟨rfl, _⟩ := List.cons_prefix_cons.1 start
        cases blank.symm.trans filled
    · exact occurs

theorem trimEnd_eq_reverse (cs : List Char) : trimEnd cs = (trimStart cs.reverse).reverse := rfl

theorem infix_trimEnd (filled : part.getLast?.any isBlank = false) (occurs : part <:+: cs) :
    part <:+: trimEnd cs := by
  rw [trimEnd_eq_reverse, ← List.reverse_infix, List.reverse_reverse]
  exact infix_trimStart (by rwa [List.head?_reverse]) (List.reverse_infix.2 occurs)

theorem infix_trim (first : part.head?.any isBlank = false)
    (last : part.getLast?.any isBlank = false) (occurs : part <:+: cs) : part <:+: trim cs :=
  infix_trimEnd last (infix_trimStart first occurs)

theorem trimStart_eq_self (filled : cs.head?.any isBlank = false) : trimStart cs = cs := by
  cases cs with
  | nil => rfl
  | cons c cs =>
    have blank : isBlank c = false := filled
    rw [trimStart, List.dropWhile_cons_of_neg (by simp [blank])]

/-- Without white space at either end there is nothing to trim. -/
theorem trimmed_eq_self {s : String} (first : s.toList.head?.any isBlank = false)
    (last : s.toList.getLast?.any isBlank = false) : trimmed s = s := by
  rw [← List.head?_reverse] at last
  rw [trimmed, trim, trimStart_eq_self first, trimEnd_eq_reverse, trimStart_eq_self last,
    List.reverse_reverse, String.ofList_toList]

/-- What is left of a text without the white space around it. -/
structure StripsTo (cs core : List Char) : Prop where
  surrounded : ∃ before after, cs = before ++ core ++ after ∧
    (∀ c ∈ before, isBlank c = true) ∧ ∀ c ∈ after, isBlank c = true
  first : core.head?.any isBlank = false
  last : core.getLast?.any isBlank = false

theorem head?_trimStart (cs : List Char) : (trimStart cs).head?.any isBlank = false := by
  have first := List.head?_dropWhile_not isBlank cs
  rw [trimStart]
  cases h : (cs.dropWhile isBlank).head? with
  | none => rfl
  | some c => rwa [h] at first

/-- White space is split off at the end, and what is left does not end with any. -/
theorem exists_trimEnd_append (cs : List Char) :
    ∃ after, cs = trimEnd cs ++ after ∧ ∀ c ∈ after, isBlank c = true := by
  refine ⟨(cs.reverse.takeWhile isBlank).reverse, ?_, fun c hc => ?_⟩
  · rw [trimEnd, ← List.reverse_append, List.takeWhile_append_dropWhile, List.reverse_reverse]
  · exact List.mem_takeWhile_imp (List.mem_reverse.1 hc)

theorem getLast?_trimEnd (cs : List Char) : (trimEnd cs).getLast?.any isBlank = false := by
  rw [trimEnd_eq_reverse, List.getLast?_reverse]
  exact head?_trimStart _

theorem stripsTo_trim (cs : List Char) : StripsTo cs (trim cs) where
  surrounded := by
    obtain ⟨after, whole, blank⟩ := exists_trimEnd_append (trimStart cs)
    refine ⟨cs.takeWhile isBlank, after, ?_, fun c => List.mem_takeWhile_imp, blank⟩
    rw [List.append_assoc, trim, ← whole, trimStart, List.takeWhile_append_dropWhile]
  first := by
    have first := head?_trimStart cs
    obtain ⟨after, whole, _⟩ := exists_trimEnd_append (trimStart cs)
    rw [trim]
    cases kept : trimEnd (trimStart cs) with
    | nil => rfl
    | cons c rest =>
      rw [whole, kept] at first
      exact first
  last := getLast?_trimEnd _

/-- Trimming is told by what it leaves: the rest is white space before and after it. -/
theorem trim_eq_iff {core : List Char} : trim cs = core ↔ StripsTo cs core := by
  constructor
  · rintro rfl
    exact stripsTo_trim cs
  · rintro ⟨⟨before, after, rfl, blankBefore, blankAfter⟩, first, last⟩
    rw [List.append_assoc, trim, trimStart, List.dropWhile_append_of_pos blankBefore]
    cases core with
    | nil =>
      have nothing : after.dropWhile isBlank = [] := List.dropWhile_eq_nil_iff.2 blankAfter
      rw [List.nil_append, nothing]
      rfl
    | cons c rest =>
      have kept : ((c :: rest) ++ after).dropWhile isBlank = (c :: rest) ++ after :=
        trimStart_eq_self first
      rw [kept, trimEnd, List.reverse_append, List.dropWhile_append_of_pos]
      · rw [← List.head?_reverse] at last
        have whole : (c :: rest).reverse.dropWhile isBlank = (c :: rest).reverse :=
          trimStart_eq_self last
        rw [whole, List.reverse_reverse]
      · exact fun d hd => blankAfter d (List.mem_reverse.1 hd)

theorem infix_trimmed {part s : String} (first : part.toList.head?.any isBlank = false)
    (last : part.toList.getLast?.any isBlank = false) (occurs : part.toList <:+: s.toList) :
    part.toList <:+: (trimmed s).toList := by
  rw [trimmed, String.toList_ofList]
  exact infix_trim first last occurs

theorem ne_empty_of_infix {part s : String} (filled : part ≠ "")
    (occurs : part.toList <:+: s.toList) : s ≠ "" := by
  rintro rfl
  exact filled (String.toList_eq_nil_iff.1 (List.infix_nil.1 occurs))

/-! ## Cutting -/

/-- A cut is made at the first separator. -/
theorem cut_eq_some_iff {sep : Char} {before after : List Char} :
    cut sep cs = some (before, after) ↔ cs = before ++ sep :: after ∧ sep ∉ before := by
  induction cs generalizing before with
  | nil => simp [cut]
  | cons c rest ih =>
    by_cases same : c = sep
    · subst same
      rw [cut, if_pos rfl]
      cases before with
      | nil => simp
      | cons d before =>
        constructor
        · intro found
          cases found
        · rintro ⟨whole, fresh⟩
          cases whole
          exact absurd List.mem_cons_self fresh
    · rw [cut, if_neg same, Option.map_eq_some_iff]
      cases before with
      | nil => simp [same]
      | cons d before =>
        constructor
        · rintro ⟨⟨start, tail⟩, found, parts⟩
          cases parts
          obtain ⟨rfl, fresh⟩ := ih.1 found
          exact ⟨rfl, List.not_mem_cons_of_ne_of_not_mem (Ne.symm same) fresh⟩
        · rintro ⟨whole, fresh⟩
          obtain ⟨rfl, rfl⟩ := List.cons.inj whole
          exact ⟨_, ih.2 ⟨rfl, List.not_mem_of_not_mem_cons fresh⟩, rfl⟩

theorem cutString_eq_some_iff {sep : Char} {s before after : String} :
    cutString sep s = some (before, after) ↔
      s.toList = before.toList ++ sep :: after.toList ∧ sep ∉ before.toList := by
  rw [← cut_eq_some_iff, cutString, Option.map_eq_some_iff]
  constructor
  · rintro ⟨⟨start, tail⟩, found, parts⟩
    cases parts
    rw [found, String.toList_ofList, String.toList_ofList]
  · intro found
    exact ⟨_, found, by simp⟩

end SdnZones.Text
