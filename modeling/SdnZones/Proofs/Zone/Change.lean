-- SUMMARY: Zones without changes between them are zones with the same record.
import Mathlib
import SdnZones.Proofs.Zone.Record
import SdnZones.Zone.Change

/-!
# Changes

Values of one kind are shown differently if they differ (`ValueKind.shown_encode_inj`), so
nothing that an encoded record holds can change without being listed as a change
(`Zone.changes_eq_nil_iff`).
-/

namespace SdnZones

/-! ## What is shown -/

theorem Json.shown_int (i : Int) : (Json.int i).shown = i.repr := String.ofList_toList

theorem ValueKind.shown_encode_inj {k : ValueKind} {v w : k.Value}
    (h : (k.encode v).shown = (k.encode w).shown) : v = w := by
  cases k with
  | text => exact h
  | flag =>
    have number : (if v then 1 else 0 : Int) = if w then 1 else 0 := by
      rw [encode, encode, Json.shown_int, Json.shown_int] at h
      exact Int.repr_inj.1 h
    cases v <;> cases w <;> simp_all
  | integer =>
    have number : Int32.toInt v = Int32.toInt w := by
      rw [encode, encode, Json.shown_int, Json.shown_int] at h
      exact Int.repr_inj.1 h
    exact Int32.toInt_inj.1 number

theorem ValueKind.eq_of_shown {k : ValueKind} {v w : Option k.Value}
    (h : (v.map k.encode).map Json.shown = (w.map k.encode).map Json.shown) : v = w := by
  rw [Option.map_map, Option.map_map] at h
  exact Option.map_injective (fun _ _ same => shown_encode_inj same) h

/-- Records of which the same is shown are the same. -/
theorem Record.eq_of_shown {r s : Record}
    (h : ∀ field, (r.fields.get? field).map Json.shown = (s.fields.get? field).map Json.shown) :
    r = s := by
  refine ext_value ?_ ?_ fun a => ?_
  · have zone := h "zone"
    rw [get?_fields_zone, get?_fields_zone] at zone
    exact Option.some.inj zone
  · have kind := h "type"
    rw [get?_fields_type, get?_fields_type] at kind
    exact ValueKind.eq_of_shown (k := .text) kind
  · have value := h a.wireName
    rw [get?_fields_wireName, get?_fields_wireName] at value
    exact ValueKind.eq_of_shown value

/-! ## Changes -/

theorem FieldChange.between_eq_nil_iff {before after : Dict Json} :
    between before after = [] ↔
      ∀ field, (before.get? field).map Json.shown = (after.get? field).map Json.shown := by
  rw [between, List.filterMap_eq_nil_iff]
  constructor
  · intro h field
    by_cases named : field ∈ (Dict.ofList (before.toList ++ after.toList)).names
    · have same := h field named
      by_contra differ
      simp only [if_neg differ, reduceCtorEq] at same
    · rw [Dict.mem_names_ofList, List.map_append, List.mem_append, not_or] at named
      have absentBefore : before.get? field = none := Dict.find?_eq_none_iff.2 named.1
      have absentAfter : after.get? field = none := Dict.find?_eq_none_iff.2 named.2
      rw [absentBefore, absentAfter]
  · intro h field _
    simp only [if_pos (h field)]

/-- Nothing changes between zones exactly if their records are the same. -/
theorem Zone.changes_eq_nil_iff {current desired : Zone} :
    Zone.changes (some current) desired = [] ↔ current.toRecord = desired.toRecord := by
  rw [changes, fieldsOf, FieldChange.between_eq_nil_iff]
  constructor
  · exact Record.eq_of_shown
  · intro h field
    rw [h]

end SdnZones
