-- SUMMARY: Zones as records and back, with diagnostics about lists that do not survive.
import SdnZones.Diagnostic
import SdnZones.Text.CommaList
import SdnZones.Zone.Basic
import SdnZones.Zone.Record

/-!
# Zones and records

`Zone.toRecord` lays a configuration out flat under wire names, `Zone.ofRecord?` takes
it from there. Lists become comma lists on the wire; an element that holds a comma is
an error on the way out (`Zone.unsendable`), an empty element a warning on the way back
(`Record.strayCommas`). An update goes by lists of names and asks the record about each
of them (`Zone.toUpdate`).
-/

namespace SdnZones

/-! ## To the wire -/

/-- What a block gives for an attribute. -/
def Block.value : Block → (a : Attribute) → Option a.Value
  | .simple b, .dhcp => b.dhcp
  | .vlan b, .bridge => b.bridge
  | .vxlan b, .peers => CommaList.join b.peers
  | .vxlan b, .vxlanPort => b.port
  | .qinq b, .bridge => b.bridge
  | .qinq b, .tag => b.tag
  | .qinq b, .vlanProtocol => b.vlanProtocol
  | .evpn b, .controller => b.controller
  | .evpn b, .vrfVxlan => b.vrfVxlan
  | .evpn b, .mac => b.mac
  | .evpn b, .exitNodes => CommaList.join b.exitNodes
  | .evpn b, .exitNodesPrimary => b.exitNodesPrimary
  | .evpn b, .exitNodesLocalRouting => b.exitNodesLocalRouting
  | .evpn b, .advertiseSubnets => b.advertiseSubnets
  | .evpn b, .disableArpNdSuppression => b.disableArpNdSuppression
  | .evpn b, .rtImport => b.rtImport
  | _, _ => none

/-- What a zone gives for an attribute. -/
def Zone.value (z : Zone) : (a : Attribute) → Option a.Value
  | .mtu => z.mtu
  | .nodes => CommaList.join z.nodes
  | .ipam => z.ipam
  | .dns => z.dns
  | .reverseDns => z.reverseDns
  | .dnsZone => z.dnsZone
  | a => z.block.bind (·.value a)

/-- A zone as a record. -/
def Zone.toRecord (z : Zone) : Record where
  zone := z.name
  kind := z.block.map (·.kind.name)
  value := z.value

/-- The lists of a block and their names in documents. -/
def Block.lists : Block → List (String × Option (List String))
  | .vxlan b => [("vxlan.peers", b.peers)]
  | .evpn b => [("evpn.exitnodes", b.exitNodes)]
  | _ => []

/-- The lists of a zone and their names in documents. -/
def Zone.lists (z : Zone) : List (String × Option (List String)) :=
  ("nodes", z.nodes) :: (z.block.map Block.lists).getD []

/-- Errors for the elements of a list that hold a comma. -/
def unsendableElements (name : String) (values : Option (List String)) : Diagnostics :=
  ((values.getD []).filter fun v => v.toList.contains ',').map fun v =>
    .error "Invalid List Element" s!"{name} element {Text.quoted v} must not contain ','"

/-- Errors for what a record cannot carry of a zone. -/
def Zone.unsendable (z : Zone) : Diagnostics :=
  z.lists.flatMap fun (name, values) => unsendableElements name values

/-! ## Updates -/

/-- The names of the fields that zones of every kind have. -/
def Zone.baseFields : List String := ["mtu", "nodes", "ipam", "dns", "reversedns", "dnszone"]

/-- The names of the fields that only zones of a kind have. -/
def ZoneKind.ownFields : ZoneKind → List String
  | simple => ["dhcp"]
  | vlan => ["bridge"]
  | vxlan => ["peers", "vxlan-port"]
  | qinq => ["bridge", "tag", "vlan-protocol"]
  | evpn => [
    "controller", "vrf-vxlan", "mac", "exitnodes", "exitnodes-primary", "exitnodes-local-routing",
    "advertise-subnets", "disable-arp-nd-suppression", "rt-import"]
  | faucet => []

/-- The update that gives a zone its settings and clears those of its fields that the record does
not have. A name that the record does not know is not cleared. -/
def Zone.toUpdate (z : Zone) : UpdateRequest :=
  let record := z.toRecord
  let names := baseFields ++ (z.kind.map ZoneKind.ownFields).getD []
  .new record (names.filter fun name => record.hasNamed name matches .ok false)

/-! ## From the wire -/

/-- The elements of a comma list that are not empty, if there are any. -/
def Record.elements (text : Option String) : Option (List String) :=
  match ((CommaList.split text).getD []).filter (!·.isEmpty) with
  | [] => none
  | values => some values

/-- A warning if a comma list has an empty element. -/
def Record.strayComma (name : String) (text : Option String) : Diagnostics :=
  if ((CommaList.split text).getD []).any String.isEmpty then
    let value := Text.quoted (text.getD "")
    [.warning "Empty List Element" s!"{name} value {value} contains an empty element"]
  else []

/-- The block that a record of a kind describes. -/
def Record.block? (r : Record) : ZoneKind → Option Block
  | .simple => some (.simple ⟨r.value .dhcp⟩)
  | .vlan => some (.vlan ⟨r.value .bridge⟩)
  | .vxlan => some (.vxlan ⟨Record.elements (r.value .peers), r.value .vxlanPort⟩)
  | .qinq => some (.qinq ⟨r.value .bridge, r.value .tag, r.value .vlanProtocol⟩)
  | .evpn => some (.evpn {
      controller := r.value .controller
      vrfVxlan := r.value .vrfVxlan
      mac := r.value .mac
      exitNodes := Record.elements (r.value .exitNodes)
      exitNodesPrimary := r.value .exitNodesPrimary
      exitNodesLocalRouting := r.value .exitNodesLocalRouting
      advertiseSubnets := r.value .advertiseSubnets
      disableArpNdSuppression := r.value .disableArpNdSuppression
      rtImport := r.value .rtImport })
  | .faucet => none

/-- The comma lists that are read from a record of a kind, with their names in documents. -/
def Record.commaLists (r : Record) : ZoneKind → List (String × Option String)
  | .vxlan => [("vxlan.peers", r.value .peers), ("nodes", r.value .nodes)]
  | .evpn => [("evpn.exitnodes", r.value .exitNodes), ("nodes", r.value .nodes)]
  | _ => [("nodes", r.value .nodes)]

/-- Why a zone could not be made. -/
inductive Zone.Problem where
  /-- No zone of this kind can be configured. -/
  | unknownKind (kind : String)
  /-- A document holds blocks for several kinds. -/
  | conflictingBlocks (names : List String)
deriving DecidableEq

/-- The message for a problem. -/
def Zone.Problem.message : Zone.Problem → String
  | .unknownKind kind => s!"SDN zone type is not recognized: {kind}"
  | .conflictingBlocks names =>
    "only one of the zone blocks may be set, found: " ++ Text.joinWith ", " names

/-- The kind and the block of a record. -/
def Record.described (r : Record) : Except Zone.Problem (ZoneKind × Block) :=
  let word := r.kind.getD ""
  match ZoneKind.ofName? word with
  | none => .error (.unknownKind word)
  | some k =>
    match r.block? k with
    | none => .error (.unknownKind word)
    | some b => .ok (k, b)

/-- The zone that a record describes. -/
def Zone.ofRecord? (r : Record) : Except Zone.Problem Zone :=
  r.described.map fun (_, b) => {
    name := r.zone
    mtu := r.value .mtu
    nodes := Record.elements (r.value .nodes)
    ipam := r.value .ipam
    dns := r.value .dns
    reverseDns := r.value .reverseDns
    dnsZone := r.value .dnsZone
    block := some b }

/-- Warnings for the comma lists of a record that hold empty elements. -/
def Record.strayCommas (r : Record) : Diagnostics :=
  match r.described with
  | .error _ => []
  | .ok (k, _) => (r.commaLists k).flatMap fun (name, text) => Record.strayComma name text

end SdnZones
