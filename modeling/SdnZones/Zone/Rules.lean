-- SUMMARY: Defaults, constraints on zones, and the changes that need a new zone.
import SdnZones.Diagnostic
import SdnZones.Text.Quoted
import SdnZones.Text.Split
import SdnZones.Zone.Basic

/-!
# Rules for zones

Before a zone is written its defaults are filled in (`Zone.withDefaults`) and its
constraints are checked (`Zone.violations`). A violation is a cause; its wording is in
`Violation.diagnostic`. `Zone.replaceReason?` tells which differences cannot be made in
place.
-/

namespace SdnZones

/-! ## Defaults -/

/-- The address management used where none is named. -/
def defaultIpam : String := "pve"

/-- The protocol of QinQ zones where none is named. -/
def defaultVlanProtocol : String := "802.1q"

/-- A list without elements counts as none. -/
def dropEmptyList : Option (List String) → Option (List String)
  | some [] => none
  | values => values

/-- A block with its defaults. -/
def Block.withDefaults : Block → Block
  | .qinq b => .qinq { b with vlanProtocol := some (b.vlanProtocol.getD defaultVlanProtocol) }
  | .vxlan b => .vxlan { b with peers := dropEmptyList b.peers }
  | .evpn b => .evpn { b with exitNodes := dropEmptyList b.exitNodes }
  | b => b

/-- A zone with its defaults. -/
def Zone.withDefaults (z : Zone) : Zone :=
  { z with
    ipam := some (z.ipam.getD defaultIpam)
    nodes := dropEmptyList z.nodes
    block := z.block.map Block.withDefaults }

/-! ## Constraints -/

/-- The protocols of QinQ zones. -/
def vlanProtocols : List String := ["802.1q", "802.1ad"]

/-- The DHCP backends of simple zones. -/
def dhcpBackends : List String := ["dnsmasq"]

/-- The fewest characters of a name. -/
def minNameLength : Nat := 3

/-- The smallest MTU. -/
def minMtu : Int32 := 68

/-- A broken constraint. -/
inductive Violation where
  | shortName (name : String)
  | smallMtu
  | noBlock
  /-- A setting that has to be there is not. -/
  | required (setting : String)
  /-- An integer lies outside its bounds. -/
  | outOfRange (setting : String) (low high : Int32)
  /-- A text is none of those that are allowed. -/
  | notAllowed (setting : String) (allowed : List String) (value : String)
  | badMac (value : String)
deriving DecidableEq

/-- The error for a violation. -/
def Violation.diagnostic : Violation → Diagnostic
  | .shortName name =>
    .error "Invalid Attribute Value"
      s!"name {Text.quoted name} must be at least {minNameLength.repr} characters long"
  | .smallMtu => .error "Invalid Attribute Value" s!"mtu must be at least {minMtu.toInt.repr}"
  | .noBlock =>
    .error "Missing Zone Type" "exactly one of simple, vlan, vxlan, qinq or evpn must be set"
  | .required setting => .error "Missing Required Attribute" s!"{setting} is required"
  | .outOfRange setting low high =>
    .error "Invalid Attribute Value"
      s!"{setting} must be between {low.toInt.repr} and {high.toInt.repr}"
  | .notAllowed setting allowed value =>
    let choices := Text.joinWith ", " allowed
    .error "Invalid Attribute Value" s!"{setting} must be one of {choices}, got {Text.quoted value}"
  | .badMac value =>
    .error "Invalid Attribute Value" s!"evpn.mac {Text.quoted value} is not a valid MAC address"

/-- A setting that has to be there. -/
def require {α : Type} (setting : String) : Option α → List Violation
  | some _ => []
  | none => [.required setting]

/-- An integer that, if it is there, has to lie within bounds. -/
def withinRange (setting : String) (low high : Int32) : Option Int32 → List Violation
  | some n => if low ≤ n ∧ n ≤ high then [] else [.outOfRange setting low high]
  | none => []

/-- A text that, if it is there, has to be one of those allowed. -/
def oneOf (setting : String) (allowed : List String) : Option String → List Violation
  | some s => if allowed.contains s then [] else [.notAllowed setting allowed s]
  | none => []

/-- A hexadecimal digit in either case. -/
def isHexDigit (c : Char) : Bool :=
  c.isDigit || ('a' ≤ c && c ≤ 'f') || ('A' ≤ c && c ≤ 'F')

/-- Six pairs of hexadecimal digits with colons between them. -/
def isMac (s : String) : Bool :=
  let parts := Text.split ':' s.toList
  parts.length == 6 && parts.all fun part => part.length == 2 && part.all isHexDigit

/-- The violations of a block, in the order of its settings. -/
def Block.violations : Block → List Violation
  | .simple b => oneOf "simple.dhcp" dhcpBackends b.dhcp
  | .vlan b => require "vlan.bridge" b.bridge
  | .vxlan b => require "vxlan.peers" b.peers ++ withinRange "vxlan.port" 1 65535 b.port
  | .qinq b =>
    require "qinq.bridge" b.bridge ++ require "qinq.tag" b.tag ++
      withinRange "qinq.tag" 1 4094 b.tag ++ oneOf "qinq.vlan_protocol" vlanProtocols b.vlanProtocol
  | .evpn b =>
    require "evpn.controller" b.controller ++ require "evpn.vrf_vxlan" b.vrfVxlan ++
      withinRange "evpn.vrf_vxlan" 1 16777215 b.vrfVxlan ++
      match b.mac with
      | some mac => if isMac mac then [] else [.badMac mac]
      | none => []

/-- The violations of a zone: of its name, its common settings, its block. -/
def Zone.violations (z : Zone) : List Violation :=
  (if z.name.length < minNameLength then [.shortName z.name] else []) ++
    (match z.mtu with
      | some mtu => if mtu < minMtu then [.smallMtu] else []
      | none => []) ++
    match z.block with
    | some b => b.violations
    | none => [.noBlock]

/-- The errors for all violations. -/
def Zone.validate (z : Zone) : Diagnostics := z.violations.map Violation.diagnostic

/-! ## Replacement -/

/-- Why a change cannot be made in place. -/
inductive ReplaceReason where
  | nameChanged (old new : String)
  | blockChanged (old new : String)
deriving DecidableEq

/-- The message for a reason. -/
def ReplaceReason.message : ReplaceReason → String
  | .nameChanged old new => s!"name changes from {old} to {new}"
  | .blockChanged old new => s!"zone block changes from {old} to {new}"

/-- The name of a zone's block, or `none`. -/
def Zone.blockName (z : Zone) : String := (z.block.map Block.name).getD "none"

/-- Why the planned zone cannot be reached from the prior one in place, if it cannot. -/
def Zone.replaceReason? (prior planned : Zone) : Option ReplaceReason :=
  if prior.name ≠ planned.name then some (.nameChanged prior.name planned.name)
  else if prior.blockName ≠ planned.blockName then
    some (.blockChanged prior.blockName planned.blockName)
  else none

end SdnZones
