-- SUMMARY: Checking a zone reports each broken constraint of the schema once and in order.
import SdnZones.Proofs.Zone.Schema

/-!
# Constraints

The schema is a list of constraints, each with what it asks of a zone (`Constraint.Met`) and with
the error for a zone that breaks it (`Constraint.complaint`). Checking a zone gives the errors of
the constraints that it breaks, in the order of the schema (`Zone.validate_eq_complaints`). No two
constraints have the same error (`Constraint.complaint_inj`), so an error tells which constraint is
broken.
-/

namespace SdnZones

/-- The constraints of the schema. -/
inductive Constraint where
  | nameLength
  | mtuBound
  | blockPresent
  | simpleDhcp
  | vlanBridge
  | vxlanPeers
  | vxlanPort
  | qinqBridge
  | qinqTag
  | qinqTagRange
  | qinqVlanProtocol
  | evpnController
  | evpnVrfVxlan
  | evpnVrfVxlanRange
  | evpnMac
deriving DecidableEq

namespace Constraint

/-- The constraints in the order of the schema. -/
def schema : List Constraint := [
  nameLength, mtuBound, blockPresent, simpleDhcp, vlanBridge, vxlanPeers, vxlanPort, qinqBridge,
  qinqTag, qinqTagRange, qinqVlanProtocol, evpnController, evpnVrfVxlan, evpnVrfVxlanRange, evpnMac]

theorem mem_schema (c : Constraint) : c ∈ schema := by cases c <;> decide

theorem nodup_schema : schema.Nodup := by decide

/-- The kind of zone that a constraint is for, unless it is for all. -/
def kind? : Constraint → Option ZoneKind
  | nameLength | mtuBound | blockPresent => none
  | simpleDhcp => some .simple
  | vlanBridge => some .vlan
  | vxlanPeers | vxlanPort => some .vxlan
  | qinqBridge | qinqTag | qinqTagRange | qinqVlanProtocol => some .qinq
  | evpnController | evpnVrfVxlan | evpnVrfVxlanRange | evpnMac => some .evpn

/-- Whether a zone meets a constraint. What is for another kind of zone is met anyway. -/
def Met (c : Constraint) (z : Zone) : Prop :=
  match c, z.block with
  | nameLength, _ => 3 ≤ z.name.length
  | mtuBound, _ => ∀ n ∈ z.mtu, 68 ≤ n.toInt
  | blockPresent, block => block.isSome
  | simpleDhcp, some (.simple b) => ∀ s ∈ b.dhcp, s = "dnsmasq"
  | vlanBridge, some (.vlan b) => b.bridge.isSome
  | vxlanPeers, some (.vxlan b) => b.peers.isSome
  | vxlanPort, some (.vxlan b) => ∀ n ∈ b.port, 1 ≤ n.toInt ∧ n.toInt ≤ 65535
  | qinqBridge, some (.qinq b) => b.bridge.isSome
  | qinqTag, some (.qinq b) => b.tag.isSome
  | qinqTagRange, some (.qinq b) => ∀ n ∈ b.tag, 1 ≤ n.toInt ∧ n.toInt ≤ 4094
  | qinqVlanProtocol, some (.qinq b) => ∀ s ∈ b.vlanProtocol, s = "802.1q" ∨ s = "802.1ad"
  | evpnController, some (.evpn b) => b.controller.isSome
  | evpnVrfVxlan, some (.evpn b) => b.vrfVxlan.isSome
  | evpnVrfVxlanRange, some (.evpn b) => ∀ n ∈ b.vrfVxlan, 1 ≤ n.toInt ∧ n.toInt ≤ 16777215
  | evpnMac, some (.evpn b) => ∀ s ∈ b.mac, MacAddress s
  | _, _ => True

/-- The setting that a constraint is about. -/
def setting : Constraint → String
  | nameLength => "name"
  | mtuBound => "mtu"
  | blockPresent => "exactly one of simple, vlan, vxlan, qinq or evpn"
  | simpleDhcp => "simple.dhcp"
  | vlanBridge => "vlan.bridge"
  | vxlanPeers => "vxlan.peers"
  | vxlanPort => "vxlan.port"
  | qinqBridge => "qinq.bridge"
  | qinqTag | qinqTagRange => "qinq.tag"
  | qinqVlanProtocol => "qinq.vlan_protocol"
  | evpnController => "evpn.controller"
  | evpnVrfVxlan | evpnVrfVxlanRange => "evpn.vrf_vxlan"
  | evpnMac => "evpn.mac"

/-- What sort of error it is to break a constraint. -/
def summary : Constraint → String
  | blockPresent => "Missing Zone Type"
  | vlanBridge | vxlanPeers | qinqBridge | qinqTag | evpnController | evpnVrfVxlan =>
    "Missing Required Attribute"
  | _ => "Invalid Attribute Value"

/-- The value of a text attribute as it is shown. -/
def shown (value : Option String) : String := Text.quoted (value.getD "")

/-- What is said of the setting when a zone breaks a constraint. -/
def objection (c : Constraint) (z : Zone) : String :=
  match c with
  | nameLength => s!"{Text.quoted z.name} must be at least 3 characters long"
  | mtuBound => "must be at least 68"
  | blockPresent => "must be set"
  | simpleDhcp => s!"must be one of dnsmasq, got {shown (z.value .dhcp)}"
  | vlanBridge | vxlanPeers | qinqBridge | qinqTag | evpnController | evpnVrfVxlan => "is required"
  | vxlanPort => "must be between 1 and 65535"
  | qinqTagRange => "must be between 1 and 4094"
  | qinqVlanProtocol => s!"must be one of 802.1q, 802.1ad, got {shown (z.value .vlanProtocol)}"
  | evpnVrfVxlanRange => "must be between 1 and 16777215"
  | evpnMac => s!"{shown (z.value .mac)} is not a valid MAC address"

/-- The error for a zone that breaks a constraint. -/
def complaint (c : Constraint) (z : Zone) : Diagnostic :=
  .error c.summary s!"{c.setting} {c.objection z}"

end Constraint

/-! ## MAC addresses -/

/-- The digits are those of ASCII, in either case. -/
theorem isHexDigit_iff {c : Char} :
    isHexDigit c = true ↔ c ∈ "0123456789abcdefABCDEF".toList := by
  constructor
  · intro hex
    have ascii : c.toNat < 128 := by
      simp only [isHexDigit, Char.isDigit, Bool.or_eq_true, Bool.and_eq_true, decide_eq_true_eq,
        Char.le_def, UInt32.le_iff_toNat_le] at hex
      simp only [Char.reduceVal, UInt32.reduceToNat, Char.toNat_val] at hex
      omega
    have table : ∀ n < 128, isHexDigit (Char.ofNat n) = true →
        Char.ofNat n ∈ "0123456789abcdefABCDEF".toList := by decide
    have found := table c.toNat ascii
    rw [Char.ofNat_toNat] at found
    exact found hex
  · have all : "0123456789abcdefABCDEF".toList.all isHexDigit = true := by decide
    exact List.all_eq_true.1 all c

theorem isMac_iff {s : String} : isMac s = true ↔ MacAddress s := by
  constructor
  · exact pairs_of_isMac
  · rintro ⟨pairs, joined, count, hex⟩
    have noColon : ∀ pair ∈ pairs, ':' ∉ pair := fun pair hpair colon =>
      absurd ((hex pair hpair).2 ':' colon) (by decide)
    have split : Text.split ':' s.toList = pairs := by
      rw [joined]
      exact Text.split_join_of_not_mem (List.ne_nil_of_length_eq_add_one count) noColon
    simpa [isMac, split, count] using hex

instance (s : String) : Decidable (MacAddress s) := decidable_of_iff _ isMac_iff

instance (c : Constraint) (z : Zone) : Decidable (c.Met z) := by
  unfold Constraint.Met
  -- a setting has at most one value, so its type need not be finite
  split <;> first | exact Option.decidableForallMem _ | infer_instance

/-! ## Broken constraints -/

/-- The constraints that a zone breaks, in the order of the schema. -/
def Zone.broken (z : Zone) : List Constraint := Constraint.schema.filter fun c => ¬ c.Met z

namespace Constraint

/-- A complaint begins with the setting that it is about. -/
theorem toList_detail (c : Constraint) (z : Zone) :
    (c.complaint z).detail.toList = c.setting.toList ++ [' '] ++ (c.objection z).toList := by
  simp [complaint, Diagnostic.error, toString, String.toList_append]

variable {z : Zone} {c : Constraint} {cs ds : List Constraint} {vs ws : List Violation}

theorem diagnostic_eq_complaint {v : Violation} {text : String}
    (said : v.diagnostic = .error c.summary text)
    (same : text.toList = c.setting.toList ++ [' '] ++ (c.objection z).toList) :
    v.diagnostic = c.complaint z := by
  rw [said]
  exact congrArg (Diagnostic.error c.summary)
    (String.toList_inj.1 (same.trans (toList_detail c z).symm))

/-- A constraint for zones of one kind is met by all others. -/
theorem met_of_kind_ne {k : ZoneKind} (kind : c.kind? = some k) (other : z.kind ≠ some k) :
    c.Met z := by
  unfold Met
  cases hb : z.block with
  | none => cases c <;> trivial
  | some b =>
    have otherKind : b.kind ≠ k := fun same => other (by rw [Zone.kind, hb, Option.map_some, same])
    cases c <;> cases kind <;> cases b <;> trivial

/-- The violations are those of constraints: one for each that is broken, with its error. -/
def Tell (z : Zone) (vs : List Violation) (cs : List Constraint) : Prop :=
  vs.map Violation.diagnostic = (cs.filter fun c => ¬ c.Met z).map (·.complaint z)

theorem Tell.append (h : Tell z vs cs) (g : Tell z ws ds) : Tell z (vs ++ ws) (cs ++ ds) := by
  rw [Tell, List.map_append, List.filter_append, List.map_append, h, g]

theorem tell_nil (met : c.Met z) : Tell z [] [c] := by
  simp [Tell, met]

theorem tell_single {v : Violation} (broken : ¬ c.Met z) (text : v.diagnostic = c.complaint z) :
    Tell z [v] [c] := by
  simp [Tell, broken, text]

theorem tell_require {α : Type} {setting : String} {v : Option α} (met : c.Met z ↔ v.isSome)
    (text : (Violation.required setting).diagnostic = c.complaint z) :
    Tell z (require setting v) [c] := by
  cases v with
  | none => exact tell_single (by simp [met]) text
  | some x => exact tell_nil (met.2 rfl)

theorem tell_withinRange {setting : String} {low high : Int32} {v : Option Int32}
    (met : c.Met z ↔ ∀ n ∈ v, low.toInt ≤ n.toInt ∧ n.toInt ≤ high.toInt)
    (text : (Violation.outOfRange setting low high).diagnostic = c.complaint z) :
    Tell z (withinRange setting low high v) [c] := by
  cases v with
  | none => exact tell_nil (met.2 (by simp))
  | some n =>
    simp only [Option.mem_some, forall_eq', Int32.le_iff_toInt_le.symm] at met
    by_cases within : low ≤ n ∧ n ≤ high
    · simpa [withinRange, within] using tell_nil (met.2 within)
    · simpa [withinRange, within] using tell_single (mt met.1 within) text

theorem tell_oneOf {allowed : List String} {v : Option String}
    (met : c.Met z ↔ ∀ s ∈ v, s ∈ allowed) (summary : c.summary = "Invalid Attribute Value")
    (objection : let choices := Text.joinWith ", " allowed
      ∀ s, v = some s → c.objection z = s!"must be one of {choices}, got {Text.quoted s}") :
    Tell z (oneOf c.setting allowed v) [c] := by
  cases v with
  | none => exact tell_nil (met.2 (by simp))
  | some s =>
    simp only [Option.mem_some, forall_eq'] at met
    by_cases among : s ∈ allowed
    · simpa [oneOf, among] using tell_nil (met.2 among)
    · let choices := Text.joinWith ", " allowed
      have said : (Violation.notAllowed c.setting allowed s).diagnostic =
          .error c.summary s!"{c.setting} must be one of {choices}, got {Text.quoted s}" := by
        rw [summary, Violation.diagnostic]
      have text := diagnostic_eq_complaint (z := z) said
        (by simp [objection s rfl, choices, toString, String.toList_append])
      simpa [oneOf, among] using tell_single (mt met.1 among) text

/-- The constraints for zones of one kind only. -/
def own (k : ZoneKind) : List Constraint := schema.filter fun c => c.kind? = some k

/-- What is for zones of other kinds need not be looked at. -/
theorem Tell.of_common_own
    (h : Tell z vs ([nameLength, mtuBound, blockPresent] ++ (z.kind.map own).getD [])) :
    Tell z vs schema := by
  have parts : [nameLength, mtuBound, blockPresent] ++ (z.kind.map own).getD [] =
      schema.filter fun c => c.kind? = none ∨ c.kind? = z.kind := by
    cases z.kind with
    | none => rfl
    | some k => cases k <;> rfl
  rw [Tell, parts, List.filter_filter] at h
  rw [Tell, h]
  congr 1
  refine List.filter_congr fun c _ => ?_
  cases kind : c.kind? with
  | none => simp
  | some k =>
    by_cases same : some k = z.kind
    · simp [same]
    · have met : c.Met z := met_of_kind_ne kind (Ne.symm same)
      simp [met]

theorem tell_nameLength (z : Zone) :
    Tell z (if z.name.length < minNameLength then [.shortName z.name] else []) [nameLength] := by
  have text : (Violation.shortName z.name).diagnostic = nameLength.complaint z := by
    refine diagnostic_eq_complaint rfl ?_
    dsimp only [objection]
    simp only [toString, String.toList_append, List.append_assoc]
    rfl
  split
  · rename_i short
    exact tell_single (by simpa [Met, minNameLength] using short) text
  · rename_i long
    exact tell_nil (by simpa [Met, minNameLength] using long)

theorem tell_mtuBound (z : Zone) :
    Tell z (match z.mtu with
      | some mtu => if mtu < minMtu then [.smallMtu] else []
      | none => []) [mtuBound] := by
  cases hm : z.mtu with
  | none => exact tell_nil (by simp [Met, hm])
  | some mtu =>
    have met : mtuBound.Met z ↔ ¬ mtu < minMtu := by
      simp [Met, hm, minMtu, Int32.lt_iff_toInt_lt]
    simp only
    split
    · rename_i small
      exact tell_single (fun h => met.1 h small) rfl
    · rename_i large
      exact tell_nil (met.2 large)

/-! ### Blocks -/

theorem value_of_block {b : Block} {a : Attribute} (hb : z.block = some b)
    (notCommon : a ∉ Attribute.common) : z.value a = b.value a := by
  rw [Zone.value_of_not_common notCommon, hb, Option.bind_some]

theorem tell_simple {b : SimpleBlock} (hb : z.block = some (.simple b)) :
    Tell z (Block.violations (.simple b)) [simpleDhcp] := by
  refine tell_oneOf (c := simpleDhcp) (by simp [Met, hb, dhcpBackends]) rfl fun s hs => ?_
  have value : z.value .dhcp = some s := (value_of_block hb (by decide)).trans hs
  dsimp only [objection]
  rw [value]
  rfl

theorem tell_vlan {b : VlanBlock} (hb : z.block = some (.vlan b)) :
    Tell z (Block.violations (.vlan b)) [vlanBridge] :=
  tell_require (by simp [Met, hb]) rfl

theorem tell_vxlan {b : VxlanBlock} (hb : z.block = some (.vxlan b)) :
    Tell z (Block.violations (.vxlan b)) [vxlanPeers, vxlanPort] := by
  have peers : Tell z (require "vxlan.peers" b.peers) [vxlanPeers] :=
    tell_require (by simp [Met, hb]) rfl
  have port : Tell z (withinRange "vxlan.port" 1 65535 b.port) [vxlanPort] :=
    tell_withinRange (by simp [Met, hb]) rfl
  exact peers.append port

theorem tell_qinq {b : QinQBlock} (hb : z.block = some (.qinq b)) :
    Tell z (Block.violations (.qinq b)) [qinqBridge, qinqTag, qinqTagRange, qinqVlanProtocol] := by
  have bridge : Tell z (require "qinq.bridge" b.bridge) [qinqBridge] :=
    tell_require (by simp [Met, hb]) rfl
  have tag : Tell z (require "qinq.tag" b.tag) [qinqTag] := tell_require (by simp [Met, hb]) rfl
  have range : Tell z (withinRange "qinq.tag" 1 4094 b.tag) [qinqTagRange] :=
    tell_withinRange (by simp [Met, hb]) rfl
  have protocol : Tell z (oneOf "qinq.vlan_protocol" vlanProtocols b.vlanProtocol)
      [qinqVlanProtocol] := by
    refine tell_oneOf (c := qinqVlanProtocol) (by simp [Met, hb, vlanProtocols]) rfl fun s hs => ?_
    have value : z.value .vlanProtocol = some s := (value_of_block hb (by decide)).trans hs
    dsimp only [objection]
    rw [value]
    rfl
  exact ((bridge.append tag).append range).append protocol

theorem tell_evpn {b : EvpnBlock} (hb : z.block = some (.evpn b)) :
    Tell z (Block.violations (.evpn b))
      [evpnController, evpnVrfVxlan, evpnVrfVxlanRange, evpnMac] := by
  have controller : Tell z (require "evpn.controller" b.controller) [evpnController] :=
    tell_require (by simp [Met, hb]) rfl
  have vrfVxlan : Tell z (require "evpn.vrf_vxlan" b.vrfVxlan) [evpnVrfVxlan] :=
    tell_require (by simp [Met, hb]) rfl
  have range : Tell z (withinRange "evpn.vrf_vxlan" 1 16777215 b.vrfVxlan) [evpnVrfVxlanRange] :=
    tell_withinRange (by simp [Met, hb]) rfl
  refine ((controller.append vrfVxlan).append range).append ?_
  cases hm : b.mac with
  | none => exact tell_nil (by simp [Met, hb, hm])
  | some mac =>
    have met : evpnMac.Met z ↔ isMac mac = true := by simp [Met, hb, hm, isMac_iff]
    have value : z.value .mac = some mac := (value_of_block hb (by decide)).trans hm
    by_cases valid : isMac mac = true
    · simpa [valid] using tell_nil (met.2 valid)
    · have text : (Violation.badMac mac).diagnostic = evpnMac.complaint z := by
        refine diagnostic_eq_complaint rfl ?_
        dsimp only [objection]
        simp only [value, toString, String.toList_append, List.append_assoc]
        rfl
      simpa [valid] using tell_single (fun h => valid (met.1 h)) text

theorem tell_block {b : Block} (hb : z.block = some b) : Tell z b.violations (own b.kind) := by
  cases b with
  | simple b => exact tell_simple hb
  | vlan b => exact tell_vlan hb
  | vxlan b => exact tell_vxlan hb
  | qinq b => exact tell_qinq hb
  | evpn b => exact tell_evpn hb

/-- The violations of a zone are those of the constraints of the schema. -/
theorem tell_violations (z : Zone) : Tell z z.violations schema := by
  refine .of_common_own ?_
  have common := (tell_nameLength z).append (tell_mtuBound z)
  cases hb : z.block with
  | none =>
    have missing : Tell z [.noBlock] [blockPresent] := tell_single (by simp [Met, hb]) rfl
    rw [Zone.violations, Zone.kind, hb]
    exact common.append missing
  | some b =>
    have present : Tell z [] [blockPresent] := tell_nil (by simp [Met, hb])
    rw [Zone.violations, Zone.kind, hb]
    exact common.append (present.append (tell_block hb))

/-! ## Complaints -/

theorem isError_complaint (c : Constraint) (z : Zone) : (c.complaint z).isError = true := by
  cases c <;> rfl

/-- No two constraints have the same error. -/
theorem complaint_inj {c d : Constraint} (same : c.complaint z = d.complaint z) : c = d := by
  have apart : ∀ c ∈ schema, ∀ d ∈ schema, c.summary = d.summary →
      c.setting.toList ++ [' '] <+: d.setting.toList ++ [' '] → c = d := by decide
  have summary : c.summary = d.summary := congrArg Diagnostic.summary same
  have left : c.setting.toList ++ [' '] <+: (d.complaint z).detail.toList :=
    ⟨_, same ▸ (toList_detail c z).symm⟩
  obtain within | within := List.prefix_or_prefix_of_prefix left ⟨_, (toList_detail d z).symm⟩
  · exact apart c (mem_schema c) d (mem_schema d) summary within
  · exact (apart d (mem_schema d) c (mem_schema c) summary.symm within).symm

end Constraint

/-- **Checking against the schema.** Checking a zone reports the constraints that it breaks, each
once and in the order of the schema, with errors that tell which they are. Nothing is reported just
if all are met, and constraints of zones of other kinds never are. -/
theorem Zone.validate_eq_complaints (z : Zone) :
    z.validate = z.broken.map (·.complaint z) ∧
      (∀ d ∈ z.validate, d.isError = true) ∧
      z.validate.Nodup ∧
      (∀ c : Constraint, c.complaint z ∈ z.validate ↔ ¬ c.Met z) ∧
      (z.validate = [] ↔ ∀ c : Constraint, c.Met z) ∧
      ∀ (c : Constraint) (k : ZoneKind), c.kind? = some k → z.kind ≠ some k →
        c.complaint z ∉ z.validate := by
  have told : z.validate = z.broken.map (·.complaint z) := Constraint.tell_violations z
  have mem_broken : ∀ c, c ∈ z.broken ↔ ¬ c.Met z := fun c => by
    simp [broken, Constraint.mem_schema]
  have reported : ∀ c : Constraint, c.complaint z ∈ z.validate ↔ ¬ c.Met z := by
    intro c
    rw [told, List.mem_map_of_injective fun _ _ => Constraint.complaint_inj, mem_broken]
  refine ⟨told, ?_, ?_, reported, ?_, ?_⟩
  · intro d hd
    rw [told, List.mem_map] at hd
    obtain ⟨c, _, rfl⟩ := hd
    exact c.isError_complaint z
  · rw [told]
    exact (Constraint.nodup_schema.filter _).map fun _ _ => Constraint.complaint_inj
  · rw [told, List.map_eq_nil_iff, List.eq_nil_iff_forall_not_mem]
    simp [mem_broken]
  · intro c k kind other complained
    exact (reported c).1 complained (Constraint.met_of_kind_ne kind other)

example :
    let qinq : QinQBlock := { tag := some 4095, vlanProtocol := some "802.1x" }
    Zone.broken { name := "äö", mtu := some 68, block := some (.qinq qinq) } =
      [.nameLength, .qinqBridge, .qinqTagRange, .qinqVlanProtocol] := by decide

end SdnZones
