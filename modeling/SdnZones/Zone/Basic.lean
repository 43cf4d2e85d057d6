-- SUMMARY: Configurations of zones: common settings and one block for the kind.
import SdnZones.Zone.Kind

/-!
# Zones

A zone is configured by settings that every kind has and by one block of settings for
its kind. A zone without a block is one that is not there: only its name is known.
-/

namespace SdnZones

/-- Settings of a simple zone. -/
structure SimpleBlock where
  /-- The automatic DHCP backend. -/
  dhcp : Option String := none
deriving DecidableEq

/-- Settings of a VLAN zone. -/
structure VlanBlock where
  bridge : Option String := none
deriving DecidableEq

/-- Settings of a VXLAN zone. -/
structure VxlanBlock where
  peers : Option (List String) := none
  /-- The UDP port of the tunnels. -/
  port : Option Int32 := none
deriving DecidableEq

/-- Settings of a QinQ zone. -/
structure QinQBlock where
  bridge : Option String := none
  /-- The service VLAN tag. -/
  tag : Option Int32 := none
  vlanProtocol : Option String := none
deriving DecidableEq

/-- Settings of an EVPN zone. -/
structure EvpnBlock where
  controller : Option String := none
  vrfVxlan : Option Int32 := none
  /-- The MAC address of the anycast logical router. -/
  mac : Option String := none
  exitNodes : Option (List String) := none
  exitNodesPrimary : Option String := none
  exitNodesLocalRouting : Option Bool := none
  advertiseSubnets : Option Bool := none
  disableArpNdSuppression : Option Bool := none
  rtImport : Option String := none
deriving DecidableEq

/-- The settings for one kind of zone. -/
inductive Block where
  | simple (b : SimpleBlock)
  | vlan (b : VlanBlock)
  | vxlan (b : VxlanBlock)
  | qinq (b : QinQBlock)
  | evpn (b : EvpnBlock)
deriving DecidableEq

/-- The kind of zone that a block is for. -/
def Block.kind : Block → ZoneKind
  | .simple _ => .simple
  | .vlan _ => .vlan
  | .vxlan _ => .vxlan
  | .qinq _ => .qinq
  | .evpn _ => .evpn

/-- The name under which a block stands in a document. -/
def Block.name (b : Block) : String := b.kind.name

/-- The configuration of a zone. -/
structure Zone where
  name : String
  mtu : Option Int32 := none
  nodes : Option (List String) := none
  ipam : Option String := none
  dns : Option String := none
  reverseDns : Option String := none
  dnsZone : Option String := none
  block : Option Block := none
deriving DecidableEq

namespace Zone

/-- A zone of which only the name is known. -/
def named (name : String) : Zone where
  name := name

/-- The kind of a zone. -/
def kind (z : Zone) : Option ZoneKind := z.block.map Block.kind

/-- Whether a zone has a block, that is, is there. -/
def isPopulated (z : Zone) : Bool := z.block.isSome

/-- The zone with nothing left but its name. -/
def cleared (z : Zone) : Zone := named z.name

end Zone

end SdnZones
