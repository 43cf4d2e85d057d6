-- SUMMARY: Zone records as they travel on the wire: encoding, decoding, and update requests.
import SdnZones.Decode.Layout
import SdnZones.Zone.Attribute

/-!
# Zone records

A record is what the cluster exchanges about a zone: its name, its kind as plain text,
and a value for some of the attributes. An update names the attributes to clear beside
the values to set, and leaves the kind out.
-/

namespace SdnZones

/-- A zone on the wire. The kind stays text, so zones of unknown kinds can be listed. -/
structure Record where
  zone : String
  kind : Option String
  value : (a : Attribute) → Option a.Value

namespace Record

/-- The record of a zone without a kind or attributes. -/
def named (zone : String) : Record := ⟨zone, none, fun _ => none⟩

/-- The record with a value for an attribute, or without one. -/
def set (r : Record) (a : Attribute) (v : Option a.Value) : Record :=
  { r with value := fun b => if h : a = b then h ▸ v else r.value b }

theorem value_set_self (r : Record) (a : Attribute) (v : Option a.Value) :
    (r.set a v).value a = v := by simp [set]

theorem value_set_of_ne (r : Record) {a b : Attribute} (h : a ≠ b) (v : Option a.Value) :
    (r.set a v).value b = r.value b := by simp [set, h]

/-- Whether an attribute has a value. -/
def has (r : Record) (a : Attribute) : Bool := (r.value a).isSome

theorem ext_value {r s : Record} (zone : r.zone = s.zone) (kind : r.kind = s.kind)
    (value : ∀ a, r.value a = s.value a) : r = s := by
  cases r; cases s
  cases zone; cases kind
  congr
  exact funext value

instance : DecidableEq Record := fun r s =>
  if h : r.zone = s.zone ∧ r.kind = s.kind ∧ ∀ a ∈ Attribute.all, r.value a = s.value a then
    .isTrue (ext_value h.1 h.2.1 fun a => h.2.2 a a.mem_all)
  else .isFalse fun e => h (e ▸ ⟨rfl, rfl, fun _ _ => rfl⟩)

/-! ## Errors of access -/

/-- Why something cannot be said about a record. -/
inductive Problem where
  /-- The field holds a text that it does not admit. -/
  | invalidValue (field value : String)
  | missingField (field : String)
  /-- No attribute has this name. -/
  | unsupported (name : String)
deriving DecidableEq

/-- The message for a problem. -/
def Problem.message : Problem → String
  | .invalidValue field value => s!"invalid value for {field}: {value}"
  | .missingField field => s!"missing field: {field}"
  | .unsupported name => s!"unsupported value: {name}"

/-- The kind that a text names. -/
def parseKind (s : String) : Except Problem ZoneKind :=
  match ZoneKind.ofName? s with
  | some k => .ok k
  | none => .error (.invalidValue "type" s)

/-- The kind of a record. -/
def zoneKind (r : Record) : Except Problem ZoneKind :=
  match r.kind with
  | some s => parseKind s
  | none => .error (.missingField "type")

/-- Whether the attribute with a name on the wire has a value. The names are listed here on their
own, apart from those that the encoding makes. -/
def hasNamed (r : Record) (name : String) : Except Problem Bool :=
  match name with
  | "advertise-subnets" => .ok (r.has .advertiseSubnets)
  | "bridge" => .ok (r.has .bridge)
  | "bridge-disable-mac-learning" => .ok (r.has .bridgeDisableMacLearning)
  | "controller" => .ok (r.has .controller)
  | "dhcp" => .ok (r.has .dhcp)
  | "disable-arp-nd-suppression" => .ok (r.has .disableArpNdSuppression)
  | "dns" => .ok (r.has .dns)
  | "dnszone" => .ok (r.has .dnsZone)
  | "dp-id" => .ok (r.has .dpId)
  | "exitnodes" => .ok (r.has .exitNodes)
  | "exitnodes-local-routing" => .ok (r.has .exitNodesLocalRouting)
  | "exitnodes-primary" => .ok (r.has .exitNodesPrimary)
  | "ipam" => .ok (r.has .ipam)
  | "mac" => .ok (r.has .mac)
  | "mtu" => .ok (r.has .mtu)
  | "nodes" => .ok (r.has .nodes)
  | "peers" => .ok (r.has .peers)
  | "reversedns" => .ok (r.has .reverseDns)
  | "rt-import" => .ok (r.has .rtImport)
  | "tag" => .ok (r.has .tag)
  | "vlan-protocol" => .ok (r.has .vlanProtocol)
  | "vrf-vxlan" => .ok (r.has .vrfVxlan)
  | "vxlan-port" => .ok (r.has .vxlanPort)
  | other => .error (.unsupported other)

/-! ## Encoding -/

/-- The member of an attribute that has a value. -/
def attributeMember? (r : Record) (a : Attribute) : Option (String × Json) :=
  (r.value a).map fun v => (a.wireName, a.kind.encode v)

/-- The members of the encoded record. Name and kind go by `zone` and `type`, which are not made
from labels; the attributes follow by name. -/
def members (r : Record) : List (String × Json) :=
  ("zone", .text r.zone) ::
    ((r.kind.map fun s => ("type", Json.text s)).toList ++
      Attribute.all.filterMap r.attributeMember?)

/-- The encoded record, its members in ascending order. -/
def fields (r : Record) : Dict Json := .ofList r.members

/-- The encoded record, its name and kind first. -/
def toJson (r : Record) : Json := .object r.members

/-! ## Decoding -/

/-- Read the name. -/
def readZone : Json → Except DecodeFault (Record → Record)
  | .text s => .ok fun r => { r with zone := s }
  | v => .error (.invalidType v.found "a string")

/-- Read the kind. -/
def readKind (v : Json) : Except DecodeFault (Record → Record) :=
  (ValueKind.decodeText v).map fun k r => { r with kind := k }

/-- Read an attribute. -/
def readAttribute (a : Attribute) : FieldReader Json Record :=
  ⟨a.wireName, fun v => (a.kind.decode v).map fun x r => r.set a x⟩

/-- The fields of a record. Members of other names are passed over. -/
def layout : Layout Json Record where
  title := "struct ZoneRecord"
  strict := false
  needsFirst := true
  readers := ⟨"zone", readZone⟩ :: ⟨"type", readKind⟩ :: Attribute.all.map readAttribute

/-- Decode a record. -/
def ofJson (v : Json) : Except DecodeFault Record := layout.ofJson (named "") v

end Record

/-! ## Update requests -/

/-- What an update of a zone sets and clears. -/
structure UpdateRequest where
  record : Record
  /-- The names of the fields to clear, with commas between them. -/
  delete : Option String

namespace UpdateRequest

/-- The update that sets what a record has, its kind left out, and clears the named fields. -/
def new (record : Record) (names : List String) : UpdateRequest where
  record := { record with kind := none }
  delete := if names.isEmpty then none else some (Text.joinWith "," names)

/-- The names of the fields that are cleared. -/
def deletedFields (u : UpdateRequest) : List String :=
  match u.delete with
  | some names => Text.splitString ',' names
  | none => []

/-- The encoded update. -/
def fields (u : UpdateRequest) : Dict Json :=
  match u.delete with
  | some names => u.record.fields.insert "delete" (.text names)
  | none => u.record.fields

end UpdateRequest

/-! ## Answers that hold records -/

/-- Decode what may be absent. -/
def Json.decodeOptional {α : Type} (decode : Json → Except DecodeFault α) :
    Json → Except DecodeFault (Option α)
  | .null => .ok none
  | v => (decode v).map some

/-- Decode every item of an array. -/
def Json.decodeArray {α : Type} (decode : Json → Except DecodeFault α) :
    Json → Except DecodeFault (List α)
  | .array items => items.mapM decode
  | v => .error (.invalidType v.found "a sequence")

/-- An answer whose only field is `data`. -/
def dataLayout {α : Type} (title : String) (decode : Json → Except DecodeFault α) :
    Layout Json (Option α) where
  title := title
  strict := false
  needsFirst := false
  readers := [⟨"data", fun v => (Json.decodeOptional decode v).map fun x _ => x⟩]

/-- The record of the answer about one zone. -/
def Record.ofGetAnswer (v : Json) : Except DecodeFault (Option Record) :=
  (dataLayout "struct ZoneGetResponseBody" Record.ofJson).ofJson none v

/-- The records of the answer about all zones. -/
def Record.ofListAnswer (v : Json) : Except DecodeFault (Option (List Record)) :=
  (dataLayout "struct ZoneListResponseBody" (Json.decodeArray Record.ofJson)).ofJson none v

end SdnZones
