-- SUMMARY: The attributes of zone records: wire names, kinds of values, and their encoding.
import SdnZones.Zone.Kind
import SdnZones.Text.Blank
import SdnZones.Text.Numeral

/-!
# Attributes of zone records

Besides its name and its kind a zone record has attributes, each with a label, from
which its name on the wire is made, and values that are texts, flags or integers. Flags
travel as `0` and `1` and may come back as words; integers may come back as texts.
-/

namespace SdnZones

/-- What the values of an attribute are. -/
inductive ValueKind where
  | text
  | flag
  | integer
deriving DecidableEq

namespace ValueKind

/-- The values of a kind. -/
abbrev Value : ValueKind → Type
  | text => String
  | flag => Bool
  | integer => Int32

instance : (k : ValueKind) → DecidableEq k.Value
  | text => inferInstanceAs (DecidableEq String)
  | flag => inferInstanceAs (DecidableEq Bool)
  | integer => inferInstanceAs (DecidableEq Int32)

/-! ## Encoding -/

/-- A value on the wire. -/
def encode : (k : ValueKind) → k.Value → Json
  | text, s => .text s
  | flag, b => .int (if b then 1 else 0)
  | integer, n => .int n.toInt

/-! ## Lenient decoding -/

/-- The word for a truth value, in any case. -/
def truthOfWord? (s : String) : Option Bool :=
  let word := String.ofList (s.toList.map Char.toLower)
  if ["1", "true", "yes", "on"].contains word then some true
  else if ["0", "false", "no", "off"].contains word then some false
  else none

/-- What a flag is expected to be. -/
def flagExpected : String := "a boolean, 0/1 or a boolean string"

/-- A flag: a truth value, the integers 0 and 1, or a word. -/
def decodeFlag : Json → Except DecodeFault (Option Bool)
  | .null => .ok none
  | .bool b => .ok (some b)
  | .int i =>
    if i = 0 then .ok (some false)
    else if i = 1 then .ok (some true)
    else .error (.invalidValue (.int i) flagExpected)
  | .text s =>
    match truthOfWord? s with
    | some b => .ok (some b)
    | none => .error (.invalidValue (.text s) flagExpected)
  | v => .error (.invalidType v.found flagExpected)

/-- What an integer is expected to be. -/
def integerExpected : String := "a 32-bit integer or a numeric string"

/-- An integer of 32 bits: a number, or a numeral with white space around it. -/
def decodeInteger : Json → Except DecodeFault (Option Int32)
  | .null => .ok none
  | .int i =>
    match Numeral.toInt32? i with
    | some n => .ok (some n)
    | none => .error (.invalidValue (.int i) integerExpected)
  | .text s =>
    match (Numeral.int? 10 (Text.trim s.toList)).bind Numeral.toInt32? with
    | some n => .ok (some n)
    | none => .error (.invalidValue (.text s) integerExpected)
  | v => .error (.invalidType v.found integerExpected)

/-- A text. -/
def decodeText : Json → Except DecodeFault (Option String)
  | .null => .ok none
  | .text s => .ok (some s)
  | v => .error (.invalidType v.found "a string")

/-- A value from the wire; nothing for an absent one. -/
def decode : (k : ValueKind) → Json → Except DecodeFault (Option k.Value)
  | text => decodeText
  | flag => decodeFlag
  | integer => decodeInteger

end ValueKind

/-- An attribute of a zone record. -/
inductive Attribute where
  | advertiseSubnets
  | bridge
  | bridgeDisableMacLearning
  | controller
  | dhcp
  | disableArpNdSuppression
  | dns
  | dnsZone
  | dpId
  | exitNodes
  | exitNodesLocalRouting
  | exitNodesPrimary
  | ipam
  | mac
  | mtu
  | nodes
  | peers
  | reverseDns
  | rtImport
  | tag
  | vlanProtocol
  | vrfVxlan
  | vxlanPort
deriving DecidableEq

namespace Attribute

/-- The attributes in ascending order of their names. -/
def all : List Attribute := [
  advertiseSubnets, bridge, bridgeDisableMacLearning, controller, dhcp, disableArpNdSuppression,
  dns, dnsZone, dpId, exitNodes, exitNodesLocalRouting, exitNodesPrimary, ipam, mac, mtu, nodes,
  peers, reverseDns, rtImport, tag, vlanProtocol, vrfVxlan, vxlanPort]

/-- The field of a record that holds an attribute. -/
def label : Attribute → String
  | advertiseSubnets => "advertise_subnets"
  | bridge => "bridge"
  | bridgeDisableMacLearning => "bridge_disable_mac_learning"
  | controller => "controller"
  | dhcp => "dhcp"
  | disableArpNdSuppression => "disable_arp_nd_suppression"
  | dns => "dns"
  | dnsZone => "dnszone"
  | dpId => "dp_id"
  | exitNodes => "exitnodes"
  | exitNodesLocalRouting => "exitnodes_local_routing"
  | exitNodesPrimary => "exitnodes_primary"
  | ipam => "ipam"
  | mac => "mac"
  | mtu => "mtu"
  | nodes => "nodes"
  | peers => "peers"
  | reverseDns => "reversedns"
  | rtImport => "rt_import"
  | tag => "tag"
  | vlanProtocol => "vlan_protocol"
  | vrfVxlan => "vrf_vxlan"
  | vxlanPort => "vxlan_port"

/-- A label with hyphens in the place of its underscores. -/
def hyphenated (label : String) : String :=
  .ofList (label.toList.map fun c => if c = '_' then '-' else c)

/-- The name of an attribute on the wire, made from its label. -/
def wireName (a : Attribute) : String := hyphenated a.label

/-- What the values of an attribute are. -/
def kind : Attribute → ValueKind
  | advertiseSubnets => .flag
  | bridgeDisableMacLearning => .flag
  | disableArpNdSuppression => .flag
  | exitNodesLocalRouting => .flag
  | dpId => .integer
  | mtu => .integer
  | tag => .integer
  | vrfVxlan => .integer
  | vxlanPort => .integer
  | _ => .text

/-- The values of an attribute. -/
abbrev Value (a : Attribute) : Type := a.kind.Value

theorem mem_all (a : Attribute) : a ∈ all := by cases a <;> decide

end Attribute

end SdnZones
