-- SUMMARY: What an update of a zone sets and what it clears are together all that it manages.
import SdnZones.Proofs.Zone.Update

/-!
# The two parts of an update

An update names each managed attribute of its zone once, either with a value to set or among the
names to clear (`UpdateRequest.Partitions`). Which of the two it is depends only on whether the
record of the zone carries the attribute (`Zone.update_partitions`).
-/

namespace SdnZones

/-! ## Requests -/

namespace UpdateRequest

/-- The names of the fields that an update sets, beside the one that names the zone. -/
def setFields (u : UpdateRequest) : List String :=
  u.fields.names.filter fun name => name ≠ "zone" ∧ name ≠ "delete"

/-- An update sets the managed fields that are held and clears the other ones. -/
structure Partitions (u : UpdateRequest) (managed held : List String) : Prop where
  set : ∀ name, name ∈ u.setFields ↔ name ∈ managed ∧ name ∈ held
  cleared : u.deletedFields = managed.filter (· ∉ held)
  once : u.deletedFields.Nodup
  disjoint : ∀ name ∈ u.setFields, name ∉ u.deletedFields
  whole : ∀ name, name ∈ managed ↔ name ∈ u.setFields ∨ name ∈ u.deletedFields
  delete : "delete" ∉ u.fields.names ↔ u.deletedFields = []
  untyped : "type" ∉ u.fields.names ∧ "type" ∉ u.deletedFields

theorem mem_setFields_iff {u : UpdateRequest} {name : String} :
    name ∈ u.setFields ↔ name ∈ u.fields.names ∧ name ≠ "zone" ∧ name ≠ "delete" := by
  rw [setFields, List.mem_filter, decide_eq_true_iff]

/-- The names that are read from an update are the pieces of those that it was made with. -/
theorem deletedFields_new (record : Record) (names : List String) :
    (new record names).deletedFields = names.flatMap (Text.splitString ',') := by
  cases names with
  | nil => rfl
  | cons first names => exact Text.splitString_joinWith first names

/-- An update has a field for the names to clear if it was made with any. -/
@[simp] theorem get?_fields_delete (u : UpdateRequest) :
    u.fields.get? "delete" = u.delete.map .text := by
  rw [fields]
  cases u.delete with
  | none => exact u.record.get?_fields_delete
  | some names => rw [Dict.get?_insert, if_pos rfl, Option.map_some]

/-- An update has a field for the names to clear exactly if it clears something. -/
theorem delete_not_mem_names_iff (u : UpdateRequest) :
    "delete" ∉ u.fields.names ↔ u.deletedFields = [] := by
  rw [Dict.mem_names_iff, Classical.not_not, get?_fields_delete, deletedFields]
  cases u.delete with
  | none => simp
  | some names => simp [Text.splitString_ne_nil]

end UpdateRequest

/-! ## Zones -/

theorem ZoneKind.nodup_managed (k : ZoneKind) : (Attribute.common ++ k.attributes).Nodup := by
  cases k <;> decide

namespace Zone

/-- An update clears the managed fields that the record does not hold, in their order. -/
theorem deletedFields_toUpdate (z : Zone) :
    z.toUpdate.deletedFields =
      (z.managed.map Attribute.wireName).filter (· ∉ z.toRecord.fields.names) := by
  rw [toUpdate_eq_new, UpdateRequest.deletedFields_new,
    Text.flatMap_splitString_of_not_mem Attribute.comma_not_mem_of_mem_map, List.filter_map]
  refine congrArg _ (List.filter_congr fun a _ => ?_)
  simp [Record.wireName_mem_names_iff]

/-- An update sets the managed fields that the record holds. -/
theorem mem_setFields_toUpdate_iff (z : Zone) (name : String) :
    name ∈ z.toUpdate.setFields ↔
      name ∈ z.managed.map Attribute.wireName ∧ name ∈ z.toRecord.fields.names := by
  rw [UpdateRequest.mem_setFields_iff]
  constructor
  · rintro ⟨sent, zone, delete⟩
    rw [Dict.mem_names_iff, get?_fields_toUpdate delete] at sent
    have type : name ≠ "type" := by
      rintro rfl
      exact sent rfl
    rw [if_neg type] at sent
    have managed : name ∈ z.managedNames := Decidable.byContradiction fun unmanaged =>
      sent (get?_fields_toRecord_eq_none unmanaged type)
    exact ⟨(List.mem_cons.1 managed).resolve_left zone, Dict.mem_names_iff.2 sent⟩
  · rintro ⟨managed, held⟩
    obtain ⟨type, delete⟩ := ne_of_mem_managedNames (List.mem_cons_of_mem _ managed)
    refine ⟨?_, ?_, delete⟩
    · rw [Dict.mem_names_iff, get?_fields_toUpdate delete, if_neg type]
      exact Dict.mem_names_iff.1 held
    · rintro rfl
      obtain ⟨a, _, zone⟩ := List.mem_map.1 managed
      exact a.wireName_ne_zone zone

/-- The update of a zone sets the fields of its kind that the record carries and clears, in their
order and each once, those that it does not carry. These are all of them, and the kind is among
neither. -/
theorem update_partitions {z : Zone} {b : Block} (hb : z.block = some b) :
    z.toUpdate.Partitions (baseFields ++ b.kind.ownFields) z.toRecord.fields.names := by
  have kind : z.kind = some b.kind := by rw [Zone.kind, hb, Option.map_some]
  have names : z.managed.map Attribute.wireName = baseFields ++ b.kind.ownFields := by
    rw [map_wireName_managed, kind]
    rfl
  rw [← names]
  have set := z.mem_setFields_toUpdate_iff
  have cleared := z.deletedFields_toUpdate
  have nodup : (z.managed.map Attribute.wireName).Nodup := by
    rw [managed_of_kind kind]
    exact List.pairwise_map.2 (b.kind.nodup_managed.imp fun ne same =>
      ne (Attribute.wireName_inj.1 same))
  have mem_cleared : ∀ name, name ∈ z.toUpdate.deletedFields ↔
      name ∈ z.managed.map Attribute.wireName ∧ name ∉ z.toRecord.fields.names := fun name => by
    rw [cleared, List.mem_filter, decide_eq_true_iff]
  refine ⟨set, cleared, ?_, fun name held gone => ?_, fun name => ?_,
    z.toUpdate.delete_not_mem_names_iff, ?_, fun gone => ?_⟩
  · rw [cleared]
    exact nodup.filter _
  · exact ((mem_cleared name).1 gone).2 ((set name).1 held).2
  · rw [set, mem_cleared, ← and_or_left]
    exact (and_iff_left (Classical.em _)).symm
  · rw [Dict.mem_names_iff, get?_fields_toUpdate (by decide), if_pos rfl]
    exact fun sent => sent rfl
  · obtain ⟨a, _, type⟩ := List.mem_map.1 ((mem_cleared "type").1 gone).1
    exact a.wireName_ne_type type

/-- A list that is set but has no elements is cleared. -/
theorem empty_list_is_cleared :
    let b : Block := .vxlan { peers := some [], port := some 4789 }
    let z : Zone := { name := "zone1", mtu := some 1450, ipam := some "pve", block := some b }
    z.block = some b ∧ z.toUpdate.setFields = ["ipam", "mtu", "vxlan-port"] ∧
      z.toUpdate.deletedFields = ["nodes", "dns", "reversedns", "dnszone", "peers"] ∧
      "delete" ∈ z.toUpdate.fields.names := by
  intro b z
  have partitions := update_partitions (z := z) (b := b) rfl
  have cleared : z.toUpdate.deletedFields = ["nodes", "dns", "reversedns", "dnszone", "peers"] :=
    partitions.cleared.trans (by decide)
  refine ⟨rfl, by decide, cleared, Decidable.byContradiction fun absent => ?_⟩
  have nothing := partitions.delete.1 absent
  rw [cleared] at nothing
  cases nothing

end Zone

end SdnZones
