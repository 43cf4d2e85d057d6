-- SUMMARY: What an encoded record holds, and what a decoded one was read from.
import SdnZones.Proofs.Decode.Slot
import SdnZones.Zone.Record

/-!
# Records and their encoded form

`get?_fields` says what an encoded record holds under each name, and `ofJson_object_eq_ok_iff`
from which objects a record is decoded: the fields are slots, and each is read from the member of
its own name and from nothing else. Together they give that decoding undoes encoding
(`ofJson_fields`) and that members of other names do not matter.
-/

namespace SdnZones

/-! ## Wire names -/

namespace Attribute

/-- The attribute of a wire name. -/
def ofWireName? (s : String) : Option Attribute := all.find? (·.wireName == s)

theorem ofWireName?_wireName (a : Attribute) : ofWireName? a.wireName = some a := by
  cases a <;> decide

theorem ofWireName?_eq_some_iff {s : String} {a : Attribute} :
    ofWireName? s = some a ↔ a.wireName = s := by
  constructor
  · intro h
    simpa using List.find?_some h
  · rintro rfl
    exact ofWireName?_wireName a

theorem wireName_inj {a b : Attribute} : a.wireName = b.wireName ↔ a = b := by
  constructor
  · intro h
    have found := ofWireName?_wireName a
    rw [h, ofWireName?_wireName b] at found
    exact (Option.some.inj found).symm
  · rintro rfl
    rfl

/-- The names of fields that are no attributes. -/
def reserved : List String := ["zone", "type", "delete", "digest", ""]

theorem ofWireName?_reserved {name : String} (h : name ∈ reserved) : ofWireName? name = none := by
  have all : ∀ name ∈ reserved, ofWireName? name = none := by decide
  exact all name h

theorem wireName_ne_reserved (a : Attribute) {name : String} (h : name ∈ reserved) :
    a.wireName ≠ name := by
  rintro rfl
  have := ofWireName?_reserved h
  rw [ofWireName?_wireName] at this
  cases this

@[simp] theorem wireName_ne_zone (a : Attribute) : a.wireName ≠ "zone" :=
  a.wireName_ne_reserved (by decide)

@[simp] theorem wireName_ne_type (a : Attribute) : a.wireName ≠ "type" :=
  a.wireName_ne_reserved (by decide)

@[simp] theorem wireName_ne_delete (a : Attribute) : a.wireName ≠ "delete" :=
  a.wireName_ne_reserved (by decide)

@[simp] theorem wireName_ne_digest (a : Attribute) : a.wireName ≠ "digest" :=
  a.wireName_ne_reserved (by decide)

theorem comma_not_mem_wireName (a : Attribute) : ',' ∉ a.wireName.toList := by
  cases a <;> decide

theorem comma_not_mem_of_mem_map {attributes : List Attribute} :
    ∀ name ∈ attributes.map wireName, ',' ∉ name.toList :=
  List.forall_mem_map.2 fun a _ => a.comma_not_mem_wireName

theorem nodup_all : all.Nodup := by decide

end Attribute

/-! ## Values -/

theorem Numeral.toInt32?_toInt (n : Int32) : toInt32? n.toInt = some n := by
  have low := n.le_toInt
  have high := n.toInt_lt
  have fits : fitsInt32 n.toInt = true := by
    simp only [fitsInt32, Bool.and_eq_true, decide_eq_true_eq]
    omega
  rw [toInt32?, if_pos fits, Int32.ofInt_toInt]

theorem Numeral.toInt32?_eq_some_iff {i : Int} {n : Int32} : toInt32? i = some n ↔ i = n.toInt := by
  constructor
  · intro h
    rw [toInt32?, Option.ite_none_right_eq_some, Option.some.injEq] at h
    obtain ⟨fits, rfl⟩ := h
    simp only [fitsInt32, Bool.and_eq_true, decide_eq_true_eq] at fits
    exact (Int32.toInt_ofInt_of_le (by simpa using fits.1) (by simp; omega)).symm
  · rintro rfl
    exact toInt32?_toInt n

/-- Decoding a value undoes its encoding. -/
theorem ValueKind.decode_encode (k : ValueKind) (v : k.Value) :
    k.decode (k.encode v) = .ok (some v) := by
  cases k with
  | text => rfl
  | flag => cases v <;> rfl
  | integer =>
    show decodeInteger (.int (Int32.toInt v)) = _
    rw [decodeInteger, Numeral.toInt32?_toInt]

/-- Decode a field that may be absent. -/
def ValueKind.decodeField (k : ValueKind) : Option Json → Except DecodeFault (Option k.Value)
  | some v => k.decode v
  | none => .ok none

theorem ValueKind.decodeField_encode (k : ValueKind) (v : Option k.Value) :
    k.decodeField (v.map k.encode) = .ok v := by
  cases v with
  | none => rfl
  | some v => exact k.decode_encode v

namespace Record

/-! ## The encoded record -/

/-- The members of some attributes hold exactly the values of these attributes. -/
theorem find?_attributeMembers (r : Record) {attributes : List Attribute}
    (nodup : attributes.Nodup) (a : Attribute) :
    Dict.find? a.wireName (attributes.filterMap r.attributeMember?) =
      if a ∈ attributes then (r.value a).map a.kind.encode else none := by
  induction attributes with
  | nil => rfl
  | cons b attributes ih =>
    obtain ⟨fresh, others⟩ := List.nodup_cons.1 nodup
    rw [List.filterMap_cons]
    by_cases h : a = b
    · subst h
      cases hv : r.value a with
      | none => simp [attributeMember?, hv, ih others, fresh]
      | some v => simp [attributeMember?, hv, Dict.find?]
    · have ne : a.wireName ≠ b.wireName := fun e => h (Attribute.wireName_inj.1 e)
      cases hv : r.value b with
      | none => simp [attributeMember?, hv, ih others, h]
      | some v => simp [attributeMember?, hv, Dict.find?, ne, ih others, h]

theorem find?_attributeMembers_of_ne (r : Record) (attributes : List Attribute) {name : String}
    (unknown : ∀ a : Attribute, a.wireName ≠ name) :
    Dict.find? name (attributes.filterMap r.attributeMember?) = none := by
  rw [Dict.find?_eq_none_iff, List.mem_map]
  rintro ⟨e, he, rfl⟩
  obtain ⟨a, _, ha⟩ := List.mem_filterMap.1 he
  obtain ⟨v, _, rfl⟩ := Option.map_eq_some_iff.1 ha
  exact unknown a rfl

theorem nodup_members (r : Record) : (r.members.map (·.1)).Nodup := by
  have attributes : ((Attribute.all.filterMap r.attributeMember?).map (·.1)).Nodup := by
    refine List.pairwise_map.2 (List.Pairwise.filterMap _ ?_ Attribute.nodup_all)
    intro a b ne e he e' he' same
    obtain ⟨v, _, rfl⟩ := Option.map_eq_some_iff.1 he
    obtain ⟨w, _, rfl⟩ := Option.map_eq_some_iff.1 he'
    exact ne (Attribute.wireName_inj.1 same)
  have zone := Dict.find?_eq_none_iff.1
    (r.find?_attributeMembers_of_ne Attribute.all Attribute.wireName_ne_zone)
  have type := Dict.find?_eq_none_iff.1
    (r.find?_attributeMembers_of_ne Attribute.all Attribute.wireName_ne_type)
  rw [members]
  cases r.kind with
  | none => exact List.nodup_cons.2 ⟨zone, attributes⟩
  | some kind =>
    refine List.nodup_cons.2 ⟨?_, List.nodup_cons.2 ⟨type, attributes⟩⟩
    exact List.not_mem_cons_of_ne_of_not_mem (show "zone" ≠ "type" by decide) zone

@[simp] theorem get?_fields_zone (r : Record) : r.fields.get? "zone" = some (.text r.zone) := by
  rw [fields, Dict.get?_ofList r.nodup_members, members, Dict.find?, if_pos rfl]

@[simp] theorem get?_fields_type (r : Record) : r.fields.get? "type" = r.kind.map .text := by
  rw [fields, Dict.get?_ofList r.nodup_members, members, Dict.find?, if_neg (by decide)]
  cases r.kind with
  | none => exact r.find?_attributeMembers_of_ne Attribute.all Attribute.wireName_ne_type
  | some kind => rfl

@[simp] theorem get?_fields_wireName (r : Record) (a : Attribute) :
    r.fields.get? a.wireName = (r.value a).map a.kind.encode := by
  have attributes := r.find?_attributeMembers Attribute.nodup_all a
  rw [if_pos a.mem_all] at attributes
  rw [fields, Dict.get?_ofList r.nodup_members, members, Dict.find?, if_neg a.wireName_ne_zone,
    ← attributes]
  cases r.kind with
  | none => rfl
  | some kind => exact if_neg a.wireName_ne_type

/-- A record is encoded under its own names only. -/
theorem get?_fields_of_ne (r : Record) {name : String} (zone : name ≠ "zone")
    (type : name ≠ "type") (unknown : ∀ a : Attribute, a.wireName ≠ name) :
    r.fields.get? name = none := by
  have attributes := r.find?_attributeMembers_of_ne Attribute.all unknown
  rw [fields, Dict.get?_ofList r.nodup_members, members, Dict.find?, if_neg zone, ← attributes]
  cases r.kind with
  | none => rfl
  | some kind => exact if_neg type

/-- The names of all fields of a record. -/
def wireNames : List String := "zone" :: "type" :: Attribute.all.map Attribute.wireName

theorem mem_wireNames_iff {name : String} :
    name ∈ wireNames ↔ name = "zone" ∨ name = "type" ∨ ∃ a : Attribute, a.wireName = name := by
  simp [wireNames, Attribute.mem_all]

theorem get?_fields_of_unknown (r : Record) {name : String} (h : name ∉ wireNames) :
    r.fields.get? name = none := by
  rw [mem_wireNames_iff, not_or, not_or, not_exists] at h
  exact r.get?_fields_of_ne h.1 h.2.1 h.2.2

/-- A record clears nothing. -/
@[simp] theorem get?_fields_delete (r : Record) : r.fields.get? "delete" = none :=
  r.get?_fields_of_ne (by decide) (by decide) Attribute.wireName_ne_delete

/-- The encoded record without its kind. -/
theorem get?_fields_withoutKind (r : Record) (name : String) :
    ({ r with kind := none } : Record).fields.get? name =
      if name = "type" then none else r.fields.get? name := by
  by_cases type : name = "type"
  · rw [type, get?_fields_type]
    rfl
  rw [if_neg type]
  by_cases zone : name = "zone"
  · rw [zone, get?_fields_zone, get?_fields_zone]
  by_cases known : ∃ a : Attribute, a.wireName = name
  · obtain ⟨a, rfl⟩ := known
    rw [get?_fields_wireName, get?_fields_wireName]
  · have unknown : ∀ a : Attribute, a.wireName ≠ name := fun a h => known ⟨a, h⟩
    rw [get?_fields_of_ne _ zone type unknown, get?_fields_of_ne _ zone type unknown]

/-! ## The decoded record -/

/-- The slot of the name. -/
def zoneSlot : Slot Json Record where
  name := "zone"
  Value := String
  get := (·.zone)
  set := fun z r => { r with zone := z }
  read
    | .text s => .ok s
    | v => .error (.invalidType v.found "a string")

/-- The slot of the kind. -/
def kindSlot : Slot Json Record where
  name := "type"
  Value := Option String
  get := (·.kind)
  set := fun k r => { r with kind := k }
  read := ValueKind.decodeText

/-- The slot of an attribute. -/
def attributeSlot (a : Attribute) : Slot Json Record where
  name := a.wireName
  Value := Option a.Value
  get := fun r => r.value a
  set := fun x r => r.set a x
  read := a.kind.decode

/-- The slots of a record in the order of its fields. -/
def slots : List (Slot Json Record) := zoneSlot :: kindSlot :: Attribute.all.map attributeSlot

theorem readers_layout : layout.readers = slots.map Slot.reader := by
  have zone : (⟨"zone", readZone⟩ : FieldReader Json Record) = zoneSlot.reader := by
    rw [Slot.reader, FieldReader.mk.injEq]
    refine ⟨rfl, funext fun v => ?_⟩
    cases v <;> rfl
  rw [layout, slots, List.map_cons, List.map_cons, List.map_map, zone]
  rfl

theorem forall_mem_slots {P : Slot Json Record → Prop} :
    (∀ f ∈ slots, P f) ↔ P zoneSlot ∧ P kindSlot ∧ ∀ a, P (attributeSlot a) := by
  simp [slots, Attribute.mem_all]

theorem lawful_slots : Slots.Lawful slots where
  distinct := by
    have attributes : (Attribute.all.map Attribute.wireName).Nodup :=
      List.pairwise_map.2
        (Attribute.nodup_all.imp fun ne same => ne (Attribute.wireName_inj.1 same))
    show ("zone" :: "type" :: (Attribute.all.map attributeSlot).map (·.name)).Nodup
    rw [List.map_map]
    refine List.nodup_cons.2 ⟨?_, List.nodup_cons.2 ⟨?_, attributes⟩⟩
    · simpa using fun a _ => a.wireName_ne_zone
    · simpa using fun a _ => a.wireName_ne_type
  get_set := forall_mem_slots.2 ⟨fun _ _ => rfl, fun _ _ => rfl, fun a x r => r.value_set_self a x⟩
  get_set_of_ne := by
    refine forall_mem_slots.2 ⟨?_, ?_, fun a => ?_⟩ <;>
      refine forall_mem_slots.2 ⟨fun ne x r => ?_, fun ne x r => ?_, fun b ne x r => ?_⟩
    case refine_3.refine_3 =>
      exact r.value_set_of_ne (fun same => ne (congrArg Attribute.wireName same.symm)) x
    all_goals first | rfl | exact absurd rfl ne
  ext := fun r s same => by
    obtain ⟨zone, kind, value⟩ := forall_mem_slots.1 same
    exact ext_value zone kind value

theorem filled_zoneSlot_iff {members : List (String × Json)} {s r : Record}
    (named : "zone" ∈ members.map (·.1)) :
    zoneSlot.Filled members s r ↔ Dict.find? "zone" members = some (.text r.zone) := by
  cases found : Dict.find? "zone" members with
  | none => exact absurd named (Dict.find?_eq_none_iff.1 found)
  | some v =>
    rw [Slot.filled_of_present found]
    cases v with
    | text z => simp [zoneSlot]
    | _ => simp [zoneSlot]

theorem filled_kindSlot_iff {members : List (String × Json)} {zone : String} {r : Record} :
    kindSlot.Filled members (named zone) r ↔
      ValueKind.text.decodeField (Dict.find? "type" members) = .ok r.kind := by
  cases found : Dict.find? "type" members with
  | none =>
    rw [Slot.filled_of_absent found]
    simp [ValueKind.decodeField, kindSlot, named, eq_comm]
  | some v => exact Slot.filled_of_present found

theorem filled_attributeSlot_iff {members : List (String × Json)} {zone : String} {r : Record}
    (a : Attribute) :
    (attributeSlot a).Filled members (named zone) r ↔
      a.kind.decodeField (Dict.find? a.wireName members) = .ok (r.value a) := by
  cases found : Dict.find? a.wireName members with
  | none =>
    rw [Slot.filled_of_absent found]
    simp [ValueKind.decodeField, attributeSlot, named, eq_comm]
  | some v => exact Slot.filled_of_present found

/-- A record is decoded from members of different names exactly if every field can be read from
the member of its name, and the name is there. -/
theorem ofJson_object_eq_ok_iff {members : List (String × Json)} {r : Record}
    (distinct : (members.map (·.1)).Nodup) :
    ofJson (.object members) = .ok r ↔
      Dict.find? "zone" members = some (.text r.zone) ∧
        ValueKind.text.decodeField (Dict.find? "type" members) = .ok r.kind ∧
          ∀ a : Attribute,
            a.kind.decodeField (Dict.find? a.wireName members) = .ok (r.value a) := by
  rw [ofJson, Layout.ofJson, Slots.ofMembers_eq_ok_iff readers_layout lawful_slots distinct]
  constructor
  · rintro ⟨_, first, filled⟩
    obtain ⟨zone, kind, value⟩ := forall_mem_slots.1 filled
    have present := (first zoneSlot rfl rfl).resolve_left List.not_mem_nil
    exact ⟨(filled_zoneSlot_iff present).1 zone, filled_kindSlot_iff.1 kind,
      fun a => (filled_attributeSlot_iff a).1 (value a)⟩
  · rintro ⟨zone, kind, value⟩
    have present : "zone" ∈ members.map (·.1) := Decidable.byContradiction fun absent => by
      rw [Dict.find?_eq_none_iff.2 absent] at zone
      cases zone
    have filled : ∀ f ∈ slots, f.Filled members (named "") r := forall_mem_slots.2
      ⟨(filled_zoneSlot_iff present).2 zone, filled_kindSlot_iff.2 kind,
        fun a => (filled_attributeSlot_iff a).2 (value a)⟩
    refine ⟨fun strict => (Bool.false_ne_true strict).elim, fun f _ head => ?_, filled⟩
    obtain rfl := Option.some.inj head
    exact .inr present

theorem ofJson_ofDict_eq_ok_iff {d : Dict Json} {r : Record} :
    ofJson (.ofDict d) = .ok r ↔
      d.get? "zone" = some (.text r.zone) ∧
        ValueKind.text.decodeField (d.get? "type") = .ok r.kind ∧
          ∀ a : Attribute, a.kind.decodeField (d.get? a.wireName) = .ok (r.value a) :=
  ofJson_object_eq_ok_iff d.nodup_names

/-- Decoding undoes encoding. -/
theorem ofJson_fields (r : Record) : ofJson (.ofDict r.fields) = .ok r := by
  refine ofJson_ofDict_eq_ok_iff.2 ⟨r.get?_fields_zone, ?_, fun a => ?_⟩
  · rw [get?_fields_type]
    exact ValueKind.text.decodeField_encode r.kind
  · rw [get?_fields_wireName]
    exact a.kind.decodeField_encode (r.value a)

end Record

end SdnZones
