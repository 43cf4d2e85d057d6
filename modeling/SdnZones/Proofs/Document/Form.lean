-- SUMMARY: The forms of documents and of the blocks in them.
import SdnZones.Proofs.Document.Setting
import SdnZones.Proofs.Zone.Projection

/-!
# Forms of documents

The blocks for a kind of zone are made of settings, and a document is made of a name, of settings
and of blocks. `BlockForm` collects what there is to be said about the blocks of one kind, so that
nothing has to be said about documents for each kind anew.
-/

namespace SdnZones

/-! ## Blocks -/

/-- The blocks for one kind of zone: their settings, how they are read, and where they stand. -/
structure BlockForm where
  kind : ZoneKind
  Own : Type
  settings : List (Setting Own)
  layout : Layout Datum Own
  start : Own
  wrap : Own → Block
  get : Document → Option Own
  set : Option Own → Document → Document
  listed : settings.map Setting.entry = kind.settings := by rfl
  strict : layout.strict = true := by rfl
  lenient : layout.needsFirst = false := by rfl
  readers : layout.readers = ((settings.map Setting.field).map Field.toSlot).map Slot.reader := by
    rfl
  lawful : Setting.Lawful settings
  bare : ∀ s ∈ settings, s.get start = none := by decide
  kind_wrap : ∀ b, (wrap b).kind = kind := by intro b; rfl
  members_wrap : ∀ b, (wrap b).members = settings.flatMap (·.member b)

namespace BlockForm

/-- The blocks of simple zones. -/
def simple : BlockForm where
  kind := .simple
  Own := SimpleBlock
  settings := [⟨"dhcp", .text, (·.dhcp), fun v b => { b with dhcp := v }⟩]
  layout := Document.simpleLayout
  start := {}
  wrap := .simple
  get := (·.simple)
  set := fun v d => { d with simple := v }
  lawful := .of_pairwise (by decide) (by simp [Setting.field, Codec.optional]) (by simp)
    fun s t same => by
      cases s; cases t
      simpa [Setting.field, Codec.optional] using same
  members_wrap := fun b => by simp [Block.members, Setting.member, SettingKind.encode]

/-- The blocks of VLAN zones. -/
def vlan : BlockForm where
  kind := .vlan
  Own := VlanBlock
  settings := [⟨"bridge", .text, (·.bridge), fun v b => { b with bridge := v }⟩]
  layout := Document.vlanLayout
  start := {}
  wrap := .vlan
  get := (·.vlan)
  set := fun v d => { d with vlan := v }
  lawful := .of_pairwise (by decide) (by simp [Setting.field, Codec.optional]) (by simp)
    fun s t same => by
      cases s; cases t
      simpa [Setting.field, Codec.optional] using same
  members_wrap := fun b => by simp [Block.members, Setting.member, SettingKind.encode]

/-- The blocks of VXLAN zones. -/
def vxlan : BlockForm where
  kind := .vxlan
  Own := VxlanBlock
  settings := [
    ⟨"peers", .texts, (·.peers), fun v b => { b with peers := v }⟩,
    ⟨"port", .integer, (·.port), fun v b => { b with port := v }⟩]
  layout := Document.vxlanLayout
  start := {}
  wrap := .vxlan
  get := (·.vxlan)
  set := fun v d => { d with vxlan := v }
  lawful := .of_pairwise (by decide) (by simp [Setting.field, Codec.optional])
    (by simp [Setting.field, Codec.optional, Slot.Independent]) fun s t same => by
      cases s; cases t
      simpa [Setting.field, Codec.optional] using same
  members_wrap := fun b => by simp [Block.members, Setting.member, SettingKind.encode]

/-- The blocks of QinQ zones. -/
def qinq : BlockForm where
  kind := .qinq
  Own := QinQBlock
  settings := [
    ⟨"bridge", .text, (·.bridge), fun v b => { b with bridge := v }⟩,
    ⟨"tag", .integer, (·.tag), fun v b => { b with tag := v }⟩,
    ⟨"vlan_protocol", .text, (·.vlanProtocol), fun v b => { b with vlanProtocol := v }⟩]
  layout := Document.qinqLayout
  start := {}
  wrap := .qinq
  get := (·.qinq)
  set := fun v d => { d with qinq := v }
  lawful := .of_pairwise (by decide) (by simp [Setting.field, Codec.optional])
    (by simp [Setting.field, Codec.optional, Slot.Independent]) fun s t same => by
      cases s; cases t
      simpa [Setting.field, Codec.optional] using same
  members_wrap := fun b => by simp [Block.members, Setting.member, SettingKind.encode]

/-- The blocks of EVPN zones. -/
def evpn : BlockForm where
  kind := .evpn
  Own := EvpnBlock
  settings := [
    ⟨"controller", .text, (·.controller), fun v b => { b with controller := v }⟩,
    ⟨"vrf_vxlan", .integer, (·.vrfVxlan), fun v b => { b with vrfVxlan := v }⟩,
    ⟨"mac", .text, (·.mac), fun v b => { b with mac := v }⟩,
    ⟨"exitnodes", .texts, (·.exitNodes), fun v b => { b with exitNodes := v }⟩,
    ⟨"exitnodes_primary", .text, (·.exitNodesPrimary),
      fun v b => { b with exitNodesPrimary := v }⟩,
    ⟨"exitnodes_local_routing", .flag, (·.exitNodesLocalRouting),
      fun v b => { b with exitNodesLocalRouting := v }⟩,
    ⟨"advertise_subnets", .flag, (·.advertiseSubnets),
      fun v b => { b with advertiseSubnets := v }⟩,
    ⟨"disable_arp_nd_suppression", .flag, (·.disableArpNdSuppression),
      fun v b => { b with disableArpNdSuppression := v }⟩,
    ⟨"rt_import", .text, (·.rtImport), fun v b => { b with rtImport := v }⟩]
  layout := Document.evpnLayout
  start := {}
  wrap := .evpn
  get := (·.evpn)
  set := fun v d => { d with evpn := v }
  lawful := .of_pairwise (by decide) (by simp [Setting.field, Codec.optional])
    (by simp [Setting.field, Codec.optional, Slot.Independent]) fun s t same => by
      cases s; cases t
      simpa [Setting.field, Codec.optional] using same
  members_wrap := fun b => by simp [Block.members, Setting.member, SettingKind.encode]

/-- The blocks of all kinds, in the order of documents. -/
def all : List BlockForm := [simple, vlan, vxlan, qinq, evpn]

theorem kinds_all : all.map kind = ZoneKind.configurable := rfl

variable (B : BlockForm)

/-- The form of a block. -/
def form : Form B.Own where
  layout := B.layout
  start := B.start
  fields := B.settings.map Setting.field
  strict := B.strict
  readers := B.readers
  lawful := B.lawful
  first_shown := fun _ needed => absurd (B.lenient.symm.trans needed) Bool.false_ne_true
  left_out := List.forall_mem_map.2 fun s hs =>
    .inr (s.kind.codec.optional_shows_eq_none_iff s.name (B.bare s hs))

/-- A block as a field of documents. -/
def field (c : Conventions) : Field Document :=
  (B.form.codec c).optional B.kind.name B.get B.set

end BlockForm

namespace Document

/-- The settings of a document that stand in no block. -/
def commonSettings : List (Setting Document) := [
  ⟨"mtu", .integer, (·.mtu), fun v d => { d with mtu := v }⟩,
  ⟨"nodes", .texts, (·.nodes), fun v d => { d with nodes := v }⟩,
  ⟨"ipam", .text, (·.ipam), fun v d => { d with ipam := v }⟩,
  ⟨"dns", .text, (·.dns), fun v d => { d with dns := v }⟩,
  ⟨"reversedns", .text, (·.reverseDns), fun v d => { d with reverseDns := v }⟩,
  ⟨"dnszone", .text, (·.dnsZone), fun v d => { d with dnsZone := v }⟩]

/-- The field of the name. -/
def nameField : Field Document :=
  SettingKind.text.codec.required "name" (·.name) fun v d => { d with name := v }

/-- The fields of a document. -/
def fields (c : Conventions) : List (Field Document) :=
  nameField :: (commonSettings.map Setting.field ++ BlockForm.all.map (·.field c))

theorem names_fields (c : Conventions) :
    (fields c).map (·.name) =
      "name" :: settings.map (·.1) ++ ZoneKind.configurable.map ZoneKind.name := rfl

theorem lawful_fields (c : Conventions) : Slots.Lawful ((fields c).map Field.toSlot) :=
  .of_pairwise
    (by
      rw [List.map_map]
      exact (names_fields c).symm ▸ (by decide))
    (by
      simp [fields, nameField, commonSettings, Setting.field, BlockForm.all, BlockForm.field,
        BlockForm.simple, BlockForm.vlan, BlockForm.vxlan, BlockForm.qinq, BlockForm.evpn,
        Codec.optional, Codec.required])
    (by
      simp [fields, nameField, commonSettings, Setting.field, BlockForm.all, BlockForm.field,
        BlockForm.simple, BlockForm.vlan, BlockForm.vxlan, BlockForm.qinq, BlockForm.evpn,
        Codec.optional, Codec.required, Slot.Independent])
    fun s t same => by
      cases s; cases t
      simpa [fields, nameField, commonSettings, Setting.field, BlockForm.all, BlockForm.field,
        BlockForm.simple, BlockForm.vlan, BlockForm.vxlan, BlockForm.qinq, BlockForm.evpn,
        Codec.optional, Codec.required] using same

/-- The form of documents in a format. -/
def form (c : Conventions) : Form Document where
  layout := layout c
  start := {}
  fields := fields c
  strict := rfl
  readers := rfl
  lawful := lawful_fields c
  first_shown := fun f _ head => by
    obtain rfl := Option.some.inj head
    exact fun x => Option.some_ne_none _
  left_out := by
    have bareSettings : ∀ s ∈ commonSettings, s.get {} = none := by decide
    have bareBlocks : ∀ B ∈ BlockForm.all, B.get {} = none := by simp [BlockForm.all]; decide
    refine List.forall_mem_cons.2 ⟨.inl ⟨rfl, rfl⟩, List.forall_mem_append.2
      ⟨List.forall_mem_map.2 fun s hs => .inr ?_, List.forall_mem_map.2 fun B hB => .inr ?_⟩⟩
    · exact s.kind.codec.optional_shows_eq_none_iff s.name (bareSettings s hs)
    · exact (B.form.codec c).optional_shows_eq_none_iff B.kind.name (bareBlocks B hB)

end Document

end SdnZones
