-- SUMMARY: Look-ups in dictionaries that were built from lists or by several operations.
import SdnZones.Dict

/-!
# Look-ups in dictionaries

What a dictionary built from a list of entries says about a name (`get?_foldl_insert`,
`get?_ofList`), which names it has (`mem_names_ofList`), and what is left after several names
were erased (`get?_foldl_erase`).
-/

namespace SdnZones.Dict

variable {α : Type}

/-! ## Entries -/

theorem find?_append (name : String) (xs ys : List (String × α)) :
    find? name (xs ++ ys) = (find? name xs).or (find? name ys) := by
  induction xs with
  | nil => rfl
  | cons x xs ih =>
    simp only [List.cons_append, find?, ih]
    split <;> rfl

theorem find?_eq_none_iff {name : String} {entries : List (String × α)} :
    find? name entries = none ↔ name ∉ entries.map (·.1) := by
  induction entries with
  | nil => simp [find?]
  | cons e entries ih =>
    rw [List.map_cons, List.mem_cons, not_or, ← ih, find?]
    by_cases h : name = e.1 <;> simp [h]

theorem find?_eq_some_iff {name : String} {value : α} {entries : List (String × α)}
    (nodup : (entries.map (·.1)).Nodup) :
    find? name entries = some value ↔ (name, value) ∈ entries := by
  induction entries with
  | nil => simp [find?]
  | cons e entries ih =>
    obtain ⟨fresh, nodup⟩ := List.nodup_cons.1 nodup
    rw [find?, List.mem_cons, ← ih nodup]
    by_cases h : name = e.1
    · have absent : find? name entries = none := find?_eq_none_iff.2 (h ▸ fresh)
      rw [if_pos h, absent]
      constructor
      · intro hv
        cases hv
        exact .inl (Prod.ext h rfl)
      · rintro (hv | hv)
        · rw [← hv]
        · cases hv
    · rw [if_neg h]
      exact ⟨.inr, fun hv => hv.resolve_left fun e' => h (congrArg Prod.fst e')⟩

theorem find?_reverse {entries : List (String × α)} (nodup : (entries.map (·.1)).Nodup)
    (name : String) : find? name entries.reverse = find? name entries := by
  have nodup' : (entries.reverse.map (·.1)).Nodup := by
    rw [List.map_reverse]
    exact List.pairwise_reverse.2 (nodup.imp Ne.symm)
  ext value
  rw [find?_eq_some_iff nodup', find?_eq_some_iff nodup, List.mem_reverse]

theorem nodup_names (d : Dict α) : (d.entries.map (·.1)).Nodup :=
  List.pairwise_map.2 (d.ascending.imp String.ne_of_lt)

theorem find?_map {β : Type} (f : α → β) (name : String) (entries : List (String × α)) :
    find? name (entries.map fun e => (e.1, f e.2)) = (find? name entries).map f := by
  induction entries with
  | nil => rfl
  | cons e entries ih =>
    rw [List.map_cons, find?, find?, ih]
    split <;> rfl

theorem get?_map {β : Type} (f : α → β) (d : Dict α) (name : String) :
    (d.map f).get? name = (d.get? name).map f := find?_map f name d.entries

/-! ## Several operations -/

theorem get?_foldl_insert (d : Dict α) (entries : List (String × α)) (name : String) :
    (entries.foldl (fun d e => d.insert e.1 e.2) d).get? name =
      (find? name entries.reverse).or (d.get? name) := by
  induction entries generalizing d with
  | nil => rfl
  | cons e entries ih =>
    rw [List.foldl_cons, ih, get?_insert, List.reverse_cons, find?_append, Option.or_assoc]
    by_cases h : name = e.1 <;> simp [h, find?]

theorem get?_foldl_erase (d : Dict α) (names : List String) (name : String) :
    (names.foldl erase d).get? name = if name ∈ names then none else d.get? name := by
  induction names generalizing d with
  | nil => simp
  | cons first names ih =>
    rw [List.foldl_cons, ih, get?_erase]
    by_cases h : name ∈ names
    · simp [h]
    · by_cases hf : name = first <;> simp [h, hf]

/-! ## Dictionaries of lists -/

theorem get?_ofList {entries : List (String × α)} (nodup : (entries.map (·.1)).Nodup)
    (name : String) : (ofList entries).get? name = find? name entries := by
  rw [ofList, get?_foldl_insert, find?_reverse nodup, get?_empty, Option.or_none]

/-- A dictionary is the one of its own entries. -/
theorem ofList_toList (d : Dict α) : ofList d.toList = d := by
  refine ext_get? fun name => ?_
  exact get?_ofList d.nodup_names name

theorem mem_names_iff {d : Dict α} {name : String} : name ∈ d.names ↔ d.get? name ≠ none := by
  rw [get?, Ne, find?_eq_none_iff, names, Classical.not_not]

theorem mem_names_ofList {entries : List (String × α)} {name : String} :
    name ∈ (ofList entries).names ↔ name ∈ entries.map (·.1) := by
  rw [mem_names_iff, ofList, get?_foldl_insert, get?_empty, Option.or_none, Ne,
    find?_eq_none_iff, Classical.not_not, List.map_reverse, List.mem_reverse]

end SdnZones.Dict
