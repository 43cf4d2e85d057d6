-- SUMMARY: JSON objects with their members in order and without the members that are null.
import SdnZones.Json.Value
import SdnZones.Proofs.Dict

/-!
# Normal forms of JSON values

The order of members does not matter to who reads them, and often neither do members that are null.
`Json.sorted` and `Json.withoutNulls` take these differences away. What is left of an object is what
can be looked up in it (`Json.sorted_object_eq_iff`, `Json.find?_filledMembers`).
-/

namespace SdnZones.Json

/-! ## Order -/

mutual

/-- The value with the members of its objects in ascending order. -/
def sorted : Json → Json
  | .object members => .object (sortMembers (sortedMembers members))
  | v => v

/-- Members, each with the members inside it in ascending order. -/
def sortedMembers : List (String × Json) → List (String × Json)
  | [] => []
  | (name, v) :: rest => (name, sorted v) :: sortedMembers rest

end

theorem sortedMembers_eq_map (members : List (String × Json)) :
    sortedMembers members = members.map fun e => (e.1, e.2.sorted) := by
  induction members with
  | nil => rfl
  | cons e members ih => rw [sortedMembers, ih, List.map_cons]

theorem names_sortedMembers (members : List (String × Json)) :
    (sortedMembers members).map (·.1) = members.map (·.1) := by
  rw [sortedMembers_eq_map, List.map_map]
  rfl

theorem find?_sortedMembers (name : String) (members : List (String × Json)) :
    Dict.find? name (sortedMembers members) = (Dict.find? name members).map sorted := by
  rw [sortedMembers_eq_map, Dict.find?_map]

theorem sorted_ne_null {v : Json} (h : v ≠ .null) : v.sorted ≠ .null := by
  cases v <;> simp_all [sorted]

theorem sorted_of_ne_object {v : Json} (h : ∀ members, v ≠ .object members) : v.sorted = v := by
  cases v with
  | object members => exact absurd rfl (h members)
  | _ => simp only [sorted]

/-! ## Nulls -/

/-- The value, unless it is null. -/
def filled? : Json → Option Json
  | .null => none
  | v => some v

theorem filled?_of_ne {v : Json} (h : v ≠ .null) : v.filled? = some v := by
  cases v <;> first | rfl | exact absurd rfl h

mutual

/-- The value without the members of its objects that are null. -/
def withoutNulls : Json → Json
  | .object members => .object (filledMembers members)
  | v => v

/-- The members that are not null, and without null members inside. -/
def filledMembers : List (String × Json) → List (String × Json)
  | [] => []
  | (_, .null) :: rest => filledMembers rest
  | (name, v) :: rest => (name, withoutNulls v) :: filledMembers rest

end

theorem filledMembers_cons_of_ne {name : String} {v : Json} {members : List (String × Json)}
    (h : v ≠ .null) :
    filledMembers ((name, v) :: members) = (name, v.withoutNulls) :: filledMembers members := by
  cases v <;> first | rfl | exact absurd rfl h

theorem sublist_names_filledMembers (members : List (String × Json)) :
    ((filledMembers members).map (·.1)).Sublist (members.map (·.1)) := by
  induction members with
  | nil => exact List.Sublist.refl _
  | cons e members ih =>
    obtain ⟨name, v⟩ := e
    by_cases h : v = .null
    · subst h
      exact ih.cons name
    · rw [filledMembers_cons_of_ne h]
      exact ih.cons_cons name

theorem find?_filledMembers {members : List (String × Json)} (distinct : (members.map (·.1)).Nodup)
    (name : String) :
    Dict.find? name (filledMembers members) =
      ((Dict.find? name members).bind filled?).map withoutNulls := by
  induction members with
  | nil => rfl
  | cons e members ih =>
    obtain ⟨own, v⟩ := e
    obtain ⟨fresh, others⟩ := List.nodup_cons.1 distinct
    by_cases null : v = .null
    · subst null
      rw [filledMembers, ih others, Dict.find?]
      by_cases same : name = own
      · have absent : Dict.find? name members = none := Dict.find?_eq_none_iff.2 (same ▸ fresh)
        rw [if_pos same, absent]
        rfl
      · rw [if_neg same]
    · rw [filledMembers_cons_of_ne null, Dict.find?, Dict.find?, ih others]
      by_cases same : name = own
      · rw [if_pos same, if_pos same, Option.bind_some, filled?_of_ne null, Option.map_some]
      · rw [if_neg same, if_neg same]

/-! ## Normal forms -/

/-- What a member amounts to when order and nulls do not matter. -/
def normal? (v : Json) : Option Json := v.filled?.map fun w => w.withoutNulls.sorted

@[simp] theorem normal?_null : Json.null.normal? = none := rfl

theorem normal?_of_ne {v : Json} (h : v ≠ .null) : v.normal? = some v.withoutNulls.sorted := by
  rw [normal?, filled?_of_ne h, Option.map_some]

/-- Only itself amounts to a value that is no object. -/
theorem sorted_withoutNulls_eq_iff {v w : Json} (h : ∀ members, w ≠ .object members) :
    v.withoutNulls.sorted = w ↔ v = w := by
  cases v with
  | object members =>
    rw [withoutNulls, sorted]
    exact iff_of_false (h _).symm (h members).symm
  | _ => simp only [withoutNulls, sorted]

theorem isSome_normal? (v : Json) : v.normal?.isSome = v.filled?.isSome := by
  rw [normal?, Option.isSome_map]

theorem sorted_object_eq_iff {xs ys : List (String × Json)} (hx : (xs.map (·.1)).Nodup)
    (hy : (ys.map (·.1)).Nodup) :
    (object xs).sorted = (object ys).sorted ↔
      ∀ name, (Dict.find? name xs).map sorted = (Dict.find? name ys).map sorted := by
  have looked : ∀ {zs : List (String × Json)}, (zs.map (·.1)).Nodup → ∀ name,
      (Dict.ofList (sortedMembers zs)).get? name = (Dict.find? name zs).map sorted := by
    intro zs distinct name
    rw [Dict.get?_ofList (names_sortedMembers zs ▸ distinct), find?_sortedMembers]
  rw [sorted, sorted, object.injEq, sortMembers, sortMembers]
  constructor
  · intro same name
    rw [← looked hx, ← looked hy, Dict.get?, Dict.get?]
    exact congrArg _ same
  · intro same
    refine congrArg Dict.toList (Dict.ext_get? fun name => ?_)
    rw [looked hx, looked hy, same name]

/-- An object is another one without its nulls exactly if it has the same to be looked up. -/
theorem sorted_object_eq_withoutNulls_iff {xs ys : List (String × Json)}
    (hx : (xs.map (·.1)).Nodup) (hy : (ys.map (·.1)).Nodup) :
    (object xs).sorted = (object ys).withoutNulls.sorted ↔
      ∀ name, (Dict.find? name xs).map sorted = (Dict.find? name ys).bind normal? := by
  rw [withoutNulls, sorted_object_eq_iff hx (hy.sublist (sublist_names_filledMembers ys))]
  refine forall_congr' fun name => ?_
  rw [find?_filledMembers hy, Option.map_map]
  cases Dict.find? name ys <;> rfl

end SdnZones.Json
