-- SUMMARY: The fields of a zone after an update, each under its name.
import SdnZones.Proofs.Api.Cluster
import SdnZones.Proofs.Zone.Reading

/-!
# Update requests

An update sets the managed attributes that a zone has and clears by name those that it leaves
out. A zone gives nothing for the others (`Zone.value_eq_none`), so after an update the managed
fields are those of the zone's record and all others are as before
(`Zone.get?_updated_toUpdate`). What is then read does not depend on what was there before
(`Zone.exists_record_updated`).
-/

namespace SdnZones

/-! ## Setting and clearing -/

namespace Cluster

/-- The names that the body of an update clears. -/
def cleared (body : Dict Json) : List String :=
  Text.splitString ',' (((body.get? "delete").bind Json.text?).getD "")

theorem get?_updated (fields body : Dict Json) (key : String) :
    (updated fields body).get? key =
      ((body.erase "delete").get? key).or
        (if key ∈ cleared body then none else fields.get? key) := by
  have entries : Dict.find? key (body.erase "delete").toList.reverse =
      (body.erase "delete").get? key := Dict.find?_reverse (Dict.nodup_names _) key
  show ((body.erase "delete").toList.foldl _ ((cleared body).foldl Dict.erase fields)).get? key = _
  rw [Dict.get?_foldl_insert, entries, Dict.get?_foldl_erase]

end Cluster

namespace UpdateRequest

variable {record : Record} {names : List String} {key : String}

theorem get?_fields_new (other : key ≠ "delete") :
    (new record names).fields.get? key = if key = "type" then none else record.fields.get? key := by
  rw [← Record.get?_fields_withoutKind, fields, new]
  by_cases none : names.isEmpty
  · simp [none]
  · simp [none, Dict.get?_insert, other]

/-- The names of an update are those that it clears. -/
theorem mem_cleared_new_iff (commaFree : ∀ name ∈ names, ',' ∉ name.toList) (filled : key ≠ "") :
    key ∈ Cluster.cleared (new record names).fields ↔ key ∈ names := by
  cases names with
  | nil =>
    have cleared : Cluster.cleared (new record []).fields = [""] := by
      rw [Cluster.cleared, fields, new]
      simp only [List.isEmpty_nil, if_true, Record.get?_fields_delete]
      rfl
    rw [cleared, List.mem_singleton]
    simp [filled]
  | cons name names =>
    have cleared : Cluster.cleared (new record (name :: names)).fields = name :: names := by
      rw [Cluster.cleared, fields, new]
      simp only [List.isEmpty_cons, Bool.false_eq_true, if_false, Dict.get?_insert, if_true]
      show Text.splitString ',' (Text.joinWith "," (name :: names)) = _
      rw [Text.splitString_joinWith, Text.flatMap_splitString_of_not_mem commaFree]
    rw [cleared]

end UpdateRequest

/-! ## Managed attributes -/

theorem Block.value_eq_none {b : Block} {a : Attribute} (h : a ∉ b.kind.attributes) :
    b.value a = none := by
  cases b with
  | simple b =>
    change a ∉ ZoneKind.simple.attributes at h
    cases a <;> first | rfl | exact absurd (by decide) h
  | vlan b =>
    change a ∉ ZoneKind.vlan.attributes at h
    cases a <;> first | rfl | exact absurd (by decide) h
  | vxlan b =>
    change a ∉ ZoneKind.vxlan.attributes at h
    cases a <;> first | rfl | exact absurd (by decide) h
  | qinq b =>
    change a ∉ ZoneKind.qinq.attributes at h
    cases a <;> first | rfl | exact absurd (by decide) h
  | evpn b =>
    change a ∉ ZoneKind.evpn.attributes at h
    cases a <;> first | rfl | exact absurd (by decide) h

namespace Zone

/-- Attributes that are not common come from the block. -/
theorem value_of_not_common {z : Zone} {a : Attribute} (h : a ∉ Attribute.common) :
    z.value a = z.block.bind (·.value a) := by
  cases a <;> first | rfl | exact absurd (by decide) h

/-- A zone gives nothing for attributes that it does not manage. -/
theorem value_eq_none {z : Zone} {a : Attribute} (h : a ∉ z.managed) : z.value a = none := by
  rw [managed, List.mem_append, not_or] at h
  rw [value_of_not_common h.1]
  cases hb : z.block with
  | none => rfl
  | some b =>
    refine Block.value_eq_none fun own => h.2 ?_
    simpa [kind, hb] using own

/-- The names of the fields that an update of a zone governs. -/
def managedNames (z : Zone) : List String := "zone" :: z.managed.map Attribute.wireName

variable {z : Zone} {key : String}

theorem mem_managedNames_iff :
    key ∈ z.managedNames ↔ key = "zone" ∨ ∃ a ∈ z.managed, a.wireName = key := by
  rw [managedNames, List.mem_cons, List.mem_map]

theorem ne_of_mem_managedNames (h : key ∈ z.managedNames) : key ≠ "type" ∧ key ≠ "delete" := by
  rcases mem_managedNames_iff.1 h with rfl | ⟨a, _, rfl⟩
  · decide
  · exact ⟨a.wireName_ne_type, a.wireName_ne_delete⟩

/-- Besides its kind the record of a zone holds managed fields only. -/
theorem get?_fields_toRecord_eq_none (unmanaged : key ∉ z.managedNames) (type : key ≠ "type") :
    z.toRecord.fields.get? key = none := by
  rw [mem_managedNames_iff, not_or] at unmanaged
  by_cases known : ∃ a : Attribute, a.wireName = key
  · obtain ⟨a, rfl⟩ := known
    have absent : z.value a = none := value_eq_none fun h => unmanaged.2 ⟨a, h, rfl⟩
    rw [Record.get?_fields_wireName, show z.toRecord.value a = none from absent]
    rfl
  · exact Record.get?_fields_of_ne _ unmanaged.1 type fun a h => known ⟨a, h⟩

theorem get?_fields_toUpdate (delete : key ≠ "delete") :
    z.toUpdate.fields.get? key = if key = "type" then none else z.toRecord.fields.get? key :=
  UpdateRequest.get?_fields_new delete

/-- An update clears the managed fields that the record does not hold. -/
theorem mem_cleared_toUpdate_iff (filled : key ≠ "") :
    key ∈ Cluster.cleared z.toUpdate.fields ↔
      key ∈ z.managedNames ∧ z.toRecord.fields.get? key = none := by
  have names : key ∈ Cluster.cleared z.toUpdate.fields ↔
      ∃ a ∈ z.managed, z.value a = none ∧ a.wireName = key := by
    rw [toUpdate_eq_new,
      UpdateRequest.mem_cleared_new_iff Attribute.comma_not_mem_of_mem_map filled]
    simp [Record.has, toRecord, and_assoc]
  rw [names, mem_managedNames_iff]
  constructor
  · rintro ⟨a, managed, absent, rfl⟩
    refine ⟨.inr ⟨a, managed, rfl⟩, ?_⟩
    rw [Record.get?_fields_wireName, show z.toRecord.value a = none from absent]
    rfl
  · rintro ⟨rfl | ⟨a, managed, rfl⟩, absent⟩
    · rw [Record.get?_fields_zone] at absent
      cases absent
    · rw [Record.get?_fields_wireName, Option.map_eq_none_iff] at absent
      exact ⟨a, managed, absent, rfl⟩

/-- After an update the managed fields are those of the zone's record; the others are as before. -/
theorem get?_updated_toUpdate (z : Zone) (fields : Dict Json) (filled : key ≠ "") :
    (Cluster.updated fields z.toUpdate.fields).get? key =
      if key ∈ z.managedNames then z.toRecord.fields.get? key else fields.get? key := by
  rw [Cluster.get?_updated, Dict.get?_erase]
  by_cases managed : key ∈ z.managedNames
  · obtain ⟨type, delete⟩ := ne_of_mem_managedNames managed
    rw [if_neg delete, if_pos managed, get?_fields_toUpdate delete, if_neg type]
    cases held : z.toRecord.fields.get? key with
    | none =>
      rw [if_pos ((mem_cleared_toUpdate_iff filled).2 ⟨managed, held⟩)]
      rfl
    | some v => rfl
  · have kept : key ∉ Cluster.cleared z.toUpdate.fields := fun h =>
      managed ((mem_cleared_toUpdate_iff filled).1 h).1
    have unsent : (if key = "delete" then none else z.toUpdate.fields.get? key) = none := by
      by_cases delete : key = "delete"
      · rw [if_pos delete]
      · rw [if_neg delete, get?_fields_toUpdate delete]
        by_cases type : key = "type"
        · rw [if_pos type]
        · rw [if_neg type, get?_fields_toRecord_eq_none managed type]
    rw [unsent, if_neg kept, if_neg managed, Option.none_or]

theorem managed_of_kind {k : ZoneKind} (kind : z.kind = some k) :
    z.managed = Attribute.common ++ k.attributes := by
  rw [managed, kind]
  rfl

theorem kind_toRecord {k : ZoneKind} (kind : z.kind = some k) : z.toRecord.kind = some k.name := by
  obtain ⟨b, hb, rfl⟩ := Option.map_eq_some_iff.1 kind
  simp [toRecord, hb]

/-- After an update of a zone of the same kind the zone is read as from its own record. -/
theorem exists_record_updated {fields : Dict Json} {r : Record} {k : ZoneKind}
    (decoded : Record.ofJson (.ofDict fields) = .ok r) (recordKind : r.kind = some k.name)
    (kind : z.kind = some k) :
    ∃ s, Record.ofJson (.ofDict (Cluster.updated fields z.toUpdate.fields)) = .ok s ∧
      ofRecord? s = ofRecord? z.toRecord := by
  obtain ⟨_, oldKind, oldValue⟩ := Record.ofJson_ofDict_eq_ok_iff.1 decoded
  let s : Record := {
    zone := z.name
    kind := r.kind
    value := fun a => if a ∈ z.managed then z.value a else r.value a }
  have decoded : Record.ofJson (.ofDict (Cluster.updated fields z.toUpdate.fields)) = .ok s := by
    refine Record.ofJson_ofDict_eq_ok_iff.2 ⟨?_, ?_, fun a => ?_⟩
    · rw [get?_updated_toUpdate z fields (by decide), if_pos (mem_managedNames_iff.2 (.inl rfl)),
        Record.get?_fields_zone]
      rfl
    · rw [get?_updated_toUpdate z fields (by decide),
        if_neg fun h => (ne_of_mem_managedNames h).1 rfl]
      exact oldKind
    · rw [get?_updated_toUpdate z fields (a.wireName_ne_reserved (by decide))]
      show _ = Except.ok (if a ∈ z.managed then z.value a else r.value a)
      by_cases managed : a ∈ z.managed
      · rw [if_pos (mem_managedNames_iff.2 (.inr ⟨a, managed, rfl⟩)), if_pos managed,
          Record.get?_fields_wireName]
        exact a.kind.decodeField_encode (z.value a)
      · have unmanaged : a.wireName ∉ z.managedNames := by
          rw [mem_managedNames_iff]
          rintro (zone | ⟨b, hb, same⟩)
          · exact a.wireName_ne_zone zone
          · exact managed (Attribute.wireName_inj.1 same ▸ hb)
        rw [if_neg unmanaged, if_neg managed]
        exact oldValue a
  refine ⟨s, decoded, ofRecord?_congr rfl recordKind (kind_toRecord kind) fun a ha => ?_⟩
  rw [← managed_of_kind kind] at ha
  exact if_pos ha

end Zone

end SdnZones
