-- SUMMARY: Zones as documents: decoding with strict names, and encoding in the order of the fields.
import SdnZones.Decode.Datum
import SdnZones.Zone.Conversion

/-!
# Zone documents

A document names a zone and holds its common settings and one block under the name of
its kind. Names that are not known are refused, at both levels. Reading a document
with several blocks fails after everything in it has been decoded.
-/

namespace SdnZones

/-- What a document holds, before it is known to have one block. -/
structure Document where
  name : String := ""
  mtu : Option Int32 := none
  nodes : Option (List String) := none
  ipam : Option String := none
  dns : Option String := none
  reverseDns : Option String := none
  dnsZone : Option String := none
  simple : Option SimpleBlock := none
  vlan : Option VlanBlock := none
  vxlan : Option VxlanBlock := none
  qinq : Option QinQBlock := none
  evpn : Option EvpnBlock := none

namespace Document

/-! ## Layouts -/

/-- A field whose value may be absent. -/
def optional {σ α : Type} (name : String) (read : Datum → Except DecodeFault α)
    (fill : Option α → σ → σ) : FieldReader Datum σ :=
  ⟨name, fun d => (Datum.readOptional read d).map fill⟩

/-- The layout of a block. -/
def blockLayout {σ : Type} (title : String) (readers : List (FieldReader Datum σ)) :
    Layout Datum σ where
  title := title
  strict := true
  needsFirst := false
  readers := readers

/-- The layout of the block of a simple zone. -/
def simpleLayout : Layout Datum SimpleBlock :=
  blockLayout "struct SimpleZone" [optional "dhcp" Datum.readText fun v b => { b with dhcp := v }]

/-- The layout of the block of a VLAN zone. -/
def vlanLayout : Layout Datum VlanBlock :=
  blockLayout "struct VlanZone" [optional "bridge" Datum.readText fun v b => { b with bridge := v }]

/-- The layout of the block of a VXLAN zone. -/
def vxlanLayout : Layout Datum VxlanBlock :=
  blockLayout "struct VxlanZone" [
    optional "peers" Datum.readTexts fun v b => { b with peers := v },
    optional "port" Datum.readInt32 fun v b => { b with port := v }]

/-- The layout of the block of a QinQ zone. -/
def qinqLayout : Layout Datum QinQBlock :=
  blockLayout "struct QinQZone" [
    optional "bridge" Datum.readText fun v b => { b with bridge := v },
    optional "tag" Datum.readInt32 fun v b => { b with tag := v },
    optional "vlan_protocol" Datum.readText fun v b => { b with vlanProtocol := v }]

/-- The layout of the block of an EVPN zone. -/
def evpnLayout : Layout Datum EvpnBlock :=
  blockLayout "struct EvpnZone" [
    optional "controller" Datum.readText fun v b => { b with controller := v },
    optional "vrf_vxlan" Datum.readInt32 fun v b => { b with vrfVxlan := v },
    optional "mac" Datum.readText fun v b => { b with mac := v },
    optional "exitnodes" Datum.readTexts fun v b => { b with exitNodes := v },
    optional "exitnodes_primary" Datum.readText fun v b => { b with exitNodesPrimary := v },
    optional "exitnodes_local_routing" Datum.readBool fun v b =>
      { b with exitNodesLocalRouting := v },
    optional "advertise_subnets" Datum.readBool fun v b => { b with advertiseSubnets := v },
    optional "disable_arp_nd_suppression" Datum.readBool
      fun v b => { b with disableArpNdSuppression := v },
    optional "rt_import" Datum.readText fun v b => { b with rtImport := v }]

/-- The layout of a document in a format. -/
def layout (c : Conventions) : Layout Datum Document where
  title := "struct ZoneDocument"
  strict := true
  needsFirst := true
  readers := [
    ⟨"name", fun d => (Datum.readText d).map fun v z => { z with name := v }⟩,
    optional "mtu" Datum.readInt32 fun v z => { z with mtu := v },
    optional "nodes" Datum.readTexts fun v z => { z with nodes := v },
    optional "ipam" Datum.readText fun v z => { z with ipam := v },
    optional "dns" Datum.readText fun v z => { z with dns := v },
    optional "reversedns" Datum.readText fun v z => { z with reverseDns := v },
    optional "dnszone" Datum.readText fun v z => { z with dnsZone := v },
    optional "simple" (Datum.readStructure c simpleLayout {}) fun v z => { z with simple := v },
    optional "vlan" (Datum.readStructure c vlanLayout {}) fun v z => { z with vlan := v },
    optional "vxlan" (Datum.readStructure c vxlanLayout {}) fun v z => { z with vxlan := v },
    optional "qinq" (Datum.readStructure c qinqLayout {}) fun v z => { z with qinq := v },
    optional "evpn" (Datum.readStructure c evpnLayout {}) fun v z => { z with evpn := v }]

/-! ## Zones of documents -/

/-- The blocks of a document in the order of the layout. -/
def blocks (d : Document) : List Block :=
  (d.simple.map Block.simple).toList ++ (d.vlan.map Block.vlan).toList ++
    (d.vxlan.map Block.vxlan).toList ++ (d.qinq.map Block.qinq).toList ++
    (d.evpn.map Block.evpn).toList

/-- The zone of a document with at most one block. -/
def toZone? (d : Document) : Except Zone.Problem Zone :=
  match d.blocks with
  | b :: c :: rest => .error (.conflictingBlocks ((b :: c :: rest).map Block.name))
  | blocks => .ok {
    name := d.name
    mtu := d.mtu
    nodes := d.nodes
    ipam := d.ipam
    dns := d.dns
    reverseDns := d.reverseDns
    dnsZone := d.dnsZone
    block := blocks.head? }

/-- Why a zone could not be read from a document. -/
inductive Fault where
  | decode (fault : DecodeFault)
  | problem (problem : Zone.Problem)
deriving DecidableEq

/-- The message for a fault. -/
def Fault.message : Fault → String
  | .decode fault => fault.message
  | .problem p => p.message

/-- Read a zone from a datum of a format. -/
def read (c : Conventions) (d : Datum) : Except Fault Zone :=
  match Datum.readStructure c (layout c) {} d with
  | .error fault => .error (.decode fault)
  | .ok document =>
    match document.toZone? with
    | .error e => .error (.problem e)
    | .ok zone => .ok zone

end Document

/-! ## Encoding -/

namespace Document

/-- The member of a setting that is there. -/
def member {α : Type} (name : String) (encode : α → Json) (v : Option α) : List (String × Json) :=
  (v.map fun x => (name, encode x)).toList

/-- An encoded list of texts. -/
def textsToJson (values : List String) : Json := .array (values.map .text)

/-- An encoded integer. -/
def int32ToJson (n : Int32) : Json := .int n.toInt

end Document

open Document

/-- The settings of an encoded block. -/
def Block.members : Block → List (String × Json)
  | .simple b => member "dhcp" .text b.dhcp
  | .vlan b => member "bridge" .text b.bridge
  | .vxlan b => member "peers" textsToJson b.peers ++ member "port" int32ToJson b.port
  | .qinq b =>
    member "bridge" .text b.bridge ++ member "tag" int32ToJson b.tag ++
      member "vlan_protocol" .text b.vlanProtocol
  | .evpn b =>
    member "controller" .text b.controller ++ member "vrf_vxlan" int32ToJson b.vrfVxlan ++
      member "mac" .text b.mac ++ member "exitnodes" textsToJson b.exitNodes ++
      member "exitnodes_primary" .text b.exitNodesPrimary ++
      member "exitnodes_local_routing" .bool b.exitNodesLocalRouting ++
      member "advertise_subnets" .bool b.advertiseSubnets ++
      member "disable_arp_nd_suppression" .bool b.disableArpNdSuppression ++
      member "rt_import" .text b.rtImport

/-- The document of a zone; settings that are not there are left out. -/
def Zone.toJson (z : Zone) : Json :=
  .object (("name", .text z.name) ::
    (member "mtu" int32ToJson z.mtu ++ member "nodes" textsToJson z.nodes ++
      member "ipam" .text z.ipam ++ member "dns" .text z.dns ++
      member "reversedns" .text z.reverseDns ++ member "dnszone" .text z.dnsZone ++
      (z.block.map fun b => (b.name, Json.object b.members)).toList))

/-- The zone of a document that is a JSON value. -/
def Zone.ofJson (v : Json) : Except Document.Fault Zone :=
  Document.read .jsonValue (.ofJson v)

end SdnZones
