-- SUMMARY: The names that a record answers for are those under which it may be encoded.
import SdnZones.Proofs.Zone.Record
import SdnZones.Zone.Conversion

/-!
# Names of optional fields

A name is optional if some records are encoded with it and others without it. A record can be asked
about exactly these names, its kind apart, and says of each whether it is in its own encoding
(`Record.hasNamed_agrees`). Encoder, question and update each spell the names on their own: the
first makes them from labels, the second and the third list them. So what an update clears is known
as a list of attributes only once the three agree (`Zone.toUpdate_eq_new`).
-/

namespace SdnZones

/-! ## Attributes of zones -/

/-- The attributes that zones of every kind have. -/
def Attribute.common : List Attribute := [.mtu, .nodes, .ipam, .dns, .reverseDns, .dnsZone]

/-- The attributes that only zones of a kind have. -/
def ZoneKind.attributes : ZoneKind → List Attribute
  | simple => [.dhcp]
  | vlan => [.bridge]
  | vxlan => [.peers, .vxlanPort]
  | qinq => [.bridge, .tag, .vlanProtocol]
  | evpn => [
    .controller, .vrfVxlan, .mac, .exitNodes, .exitNodesPrimary, .exitNodesLocalRouting,
    .advertiseSubnets, .disableArpNdSuppression, .rtImport]
  | faucet => []

/-- The attributes that a zone manages. -/
def Zone.managed (z : Zone) : List Attribute :=
  Attribute.common ++ (z.kind.map ZoneKind.attributes).getD []

theorem Zone.baseFields_eq_map : baseFields = Attribute.common.map Attribute.wireName := by decide

theorem ZoneKind.ownFields_eq_map (k : ZoneKind) :
    k.ownFields = k.attributes.map Attribute.wireName := by
  cases k <;> decide

/-- A name that is made from a label has no underscores. -/
theorem Attribute.underscore_not_mem_hyphenated (label : String) :
    '_' ∉ (hyphenated label).toList := by
  rw [hyphenated, String.toList_ofList, List.mem_map]
  rintro ⟨c, _, h⟩
  split at h
  · cases h
  · next other => exact other h

theorem ValueKind.nonempty_value : (k : ValueKind) → Nonempty k.Value
  | text => ⟨""⟩
  | flag => ⟨false⟩
  | integer => ⟨(0 : Int32)⟩

namespace Record

variable {r : Record} {name : String}

/-! ## Keys of encoded records -/

/-- The keys of the object that a record is encoded to. -/
def keys (r : Record) : List String := r.toJson.toDict.names

/-- A name, other than that of the kind, under which some records are encoded and others are not. -/
structure OptionalField (name : String) : Prop where
  ne_type : name ≠ "type"
  present : ∃ r : Record, name ∈ r.keys
  absent : ∃ r : Record, name ∉ r.keys

theorem mem_keys_iff : name ∈ r.keys ↔ r.fields.get? name ≠ none := Dict.mem_names_iff

theorem zone_mem_keys (r : Record) : "zone" ∈ r.keys := by
  rw [mem_keys_iff, get?_fields_zone]
  exact Option.some_ne_none _

theorem wireName_mem_names_iff {a : Attribute} :
    a.wireName ∈ r.fields.names ↔ r.has a = true := by
  rw [Dict.mem_names_iff, get?_fields_wireName, Ne, Option.map_eq_none_iff, has,
    Option.isSome_iff_ne_none]

theorem wireName_mem_keys_iff {a : Attribute} : a.wireName ∈ r.keys ↔ r.has a = true :=
  wireName_mem_names_iff

/-- Of the names under which records are encoded only that of the zone is always there. -/
theorem optionalField_iff : OptionalField name ↔ ∃ a : Attribute, a.wireName = name := by
  constructor
  · rintro ⟨ne_type, ⟨r, present⟩, s, absent⟩
    have known : name ∈ wireNames := by
      by_contra strange
      exact mem_keys_iff.1 present (r.get?_fields_of_unknown strange)
    rcases mem_wireNames_iff.1 known with rfl | rfl | named
    · exact absurd s.zone_mem_keys absent
    · exact absurd rfl ne_type
    · exact named
  · rintro ⟨a, rfl⟩
    obtain ⟨v⟩ := a.kind.nonempty_value
    have present : ((named "").set a (some v)).has a = true := by rw [has, value_set_self]; rfl
    have absent : ¬ (named "").has a = true := Bool.false_ne_true
    exact ⟨a.wireName_ne_type, ⟨_, wireName_mem_keys_iff.2 present⟩, _,
      mt wireName_mem_keys_iff.1 absent⟩

/-! ## Asking a record -/

theorem hasNamed_wireName (r : Record) (a : Attribute) :
    r.hasNamed a.wireName = .ok (r.has a) := by
  cases a <;> rfl

/-- A record answers with the attribute of a name, and otherwise not at all. -/
theorem hasNamed_cases (r : Record) (name : String) :
    (∃ a : Attribute, r.hasNamed name = .ok (r.has a) ∧ a.wireName = name) ∨
      r.hasNamed name = .error (.unsupported name) := by
  unfold hasNamed
  split
  case h_24 => exact .inr rfl
  all_goals exact .inl ⟨_, rfl, rfl⟩

theorem hasNamed_of_unknown (unknown : ¬ OptionalField name) :
    r.hasNamed name = .error (.unsupported name) := by
  rcases r.hasNamed_cases name with ⟨a, _, named⟩ | refused
  · exact absurd (optionalField_iff.2 ⟨a, named⟩) unknown
  · exact refused

theorem hasNamed_eq_ok_iff {b : Bool} :
    r.hasNamed name = .ok b ↔ OptionalField name ∧ (b = true ↔ name ∈ r.keys) := by
  by_cases optional : OptionalField name
  · obtain ⟨a, rfl⟩ := optionalField_iff.1 optional
    rw [hasNamed_wireName, Except.ok.injEq, wireName_mem_keys_iff, and_iff_right optional,
      eq_comm, Bool.eq_iff_iff]
  · rw [hasNamed_of_unknown optional]
    exact iff_of_false nofun fun h => optional h.1

/-- A record answers for the names of optional fields and says of each whether it is among its own
keys. All other names are unsupported. The names that it answers for are the labels of attributes
with hyphens for underscores, so neither that of the zone nor that of the kind is among them, nor
any with an underscore. The names that an update goes by are, for zones of every kind. -/
theorem hasNamed_agrees (r : Record) (name : String) :
    (∀ b, r.hasNamed name = .ok b ↔ OptionalField name ∧ (b = true ↔ name ∈ r.keys)) ∧
    (¬ OptionalField name → r.hasNamed name = .error (.unsupported name)) ∧
    (OptionalField name ↔ ∃ a : Attribute, name = Attribute.hyphenated a.label) ∧
    (name = "zone" ∨ name = "type" ∨ '_' ∈ name.toList → ¬ OptionalField name) ∧
    (∀ k : ZoneKind, name ∈ Zone.baseFields ++ k.ownFields → OptionalField name) := by
  refine ⟨fun b => hasNamed_eq_ok_iff, hasNamed_of_unknown, ?_, ?_, fun k listed => ?_⟩
  · rw [optionalField_iff]
    exact exists_congr fun a => eq_comm
  · intro reserved optional
    obtain ⟨a, rfl⟩ := optionalField_iff.1 optional
    rcases reserved with zone | type | underscore
    · exact a.wireName_ne_zone zone
    · exact a.wireName_ne_type type
    · exact Attribute.underscore_not_mem_hyphenated a.label underscore
  · rw [Zone.baseFields_eq_map, k.ownFields_eq_map, ← List.map_append] at listed
    obtain ⟨a, _, named⟩ := List.mem_map.1 listed
    exact optionalField_iff.2 ⟨a, named⟩

/-- A record with a port, asked about the port, about an attribute that it does not have, about the
port with an underscore, about its kind and about its name. -/
theorem vxlan_record_answers :
    let r : Record := ({ named "z1" with kind := some "vxlan" } : Record).set .vxlanPort
      (some (4789 : Int32))
    r.keys = ["type", "vxlan-port", "zone"] ∧
      OptionalField "vxlan-port" ∧ r.hasNamed "vxlan-port" = .ok true ∧
      OptionalField "mtu" ∧ r.hasNamed "mtu" = .ok false ∧
      r.hasNamed "vxlan_port" = .error (.unsupported "vxlan_port") ∧
      r.hasNamed "type" = .error (.unsupported "type") ∧
      r.hasNamed "zone" = .error (.unsupported "zone") := by
  intro r
  have keys : r.keys = ["type", "vxlan-port", "zone"] := by decide
  have listed : ∀ name, name ∈ Zone.baseFields ++ ZoneKind.vxlan.ownFields → OptionalField name :=
    fun name => (hasNamed_agrees r name).2.2.2.2 .vxlan
  have refused : ∀ name, name = "zone" ∨ name = "type" ∨ '_' ∈ name.toList →
      r.hasNamed name = .error (.unsupported name) := fun name reserved =>
    have agrees := hasNamed_agrees r name
    agrees.2.1 (agrees.2.2.2.1 reserved)
  have port : OptionalField "vxlan-port" := listed _ (by decide)
  have mtu : OptionalField "mtu" := listed _ (by decide)
  refine ⟨keys, port, ?_, mtu, ?_, refused _ (by decide), refused _ (by decide),
    refused _ (by decide)⟩
  · exact ((hasNamed_agrees r "vxlan-port").1 true).2 ⟨port, by rw [keys]; decide⟩
  · exact ((hasNamed_agrees r "mtu").1 false).2 ⟨mtu, by rw [keys]; decide⟩

end Record

/-! ## What an update clears -/

namespace Zone

theorem map_wireName_managed (z : Zone) : z.managed.map Attribute.wireName =
    baseFields ++ (z.kind.map ZoneKind.ownFields).getD [] := by
  rw [baseFields_eq_map, managed, List.map_append]
  cases z.kind with
  | none => rfl
  | some k => exact congrArg _ k.ownFields_eq_map.symm

/-- An update clears the managed attributes that the record does not have. -/
theorem toUpdate_eq_new (z : Zone) : z.toUpdate =
    .new z.toRecord ((z.managed.filter fun a => !z.toRecord.has a).map Attribute.wireName) := by
  rw [toUpdate, ← map_wireName_managed, List.filter_map]
  refine congrArg (fun absent => UpdateRequest.new z.toRecord (absent.map Attribute.wireName))
    (List.filter_congr fun a _ => ?_)
  rw [Function.comp_apply, Record.hasNamed_wireName]
  cases z.toRecord.has a <;> rfl

end Zone

end SdnZones
