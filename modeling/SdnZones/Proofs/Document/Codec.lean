-- SUMMARY: Zones survive encoding as documents, and which objects are documents of zones.
import SdnZones.Proofs.Document.Form

/-!
# Documents of zones

`Document.WellFormed` says of an object, without looking at readers, that it is the document of a
zone; all of it can be computed. A document is decoded exactly from such objects, by the law of its
form, and the zone of a decoded document is written as the object that it was read from
(`Zone.document_codec`).
-/

namespace SdnZones

namespace Document

/-! ## Members -/

/-- A member that is a setting: null, or of the kind that stands in a table. -/
def IsSetting (table : List (String × SettingKind)) (e : String × Json) : Prop :=
  ∃ s ∈ table, s.1 = e.1 ∧ (e.2 = .null ∨ s.2.admits e.2)

/-- A value that is an object of settings from a table. -/
def IsObject (table : List (String × SettingKind)) : Json → Prop
  | .object own => ∀ e ∈ own, IsSetting table e
  | _ => False

/-- A member that is a block: null, or an object of settings for its kind of zone. -/
def IsBlock (e : String × Json) : Prop :=
  ∃ k ∈ ZoneKind.configurable, k.name = e.1 ∧ (e.2 = .null ∨ IsObject k.settings e.2)

/-- A value that may stand as a block: null, or an object with members of different names. -/
def MayBeBlock : Json → Prop
  | .null => True
  | .object own => (own.map (·.1)).Nodup
  | _ => False

/-- Members of different names that have objects, or nothing, as blocks. -/
structure Presented (members : List (String × Json)) : Prop where
  distinct : (members.map (·.1)).Nodup
  blocks : ∀ e ∈ members, e.1 ∈ ZoneKind.configurable.map ZoneKind.name → MayBeBlock e.2

/-- Members with a name that is a text, in which everything is known and of its declared type. -/
structure WellFormed (members : List (String × Json)) : Prop where
  named : "name" ∈ members.map (·.1)
  typed : ∀ e ∈ members, e.1 = "name" ∧ SettingKind.text.admits e.2 ∨
    IsSetting settings e ∨ IsBlock e

/-- The kinds of the blocks that members have. -/
def blocksIn (members : List (String × Json)) : List ZoneKind :=
  ZoneKind.configurable.filter fun k => ((Dict.find? k.name members).bind Json.filled?).isSome

instance (table : List (String × SettingKind)) : DecidablePred (IsSetting table) := fun e =>
  inferInstanceAs (Decidable (∃ s ∈ table, s.1 = e.1 ∧ (e.2 = .null ∨ s.2.admits e.2)))

instance (table : List (String × SettingKind)) : DecidablePred (IsObject table)
  | .object own => inferInstanceAs (Decidable (∀ e ∈ own, IsSetting table e))
  | .null | .bool _ | .int _ | .float _ | .text _ | .array _ => inferInstanceAs (Decidable False)

instance : DecidablePred IsBlock := fun e => inferInstanceAs (Decidable
  (∃ k ∈ ZoneKind.configurable, k.name = e.1 ∧ (e.2 = .null ∨ IsObject k.settings e.2)))

instance : DecidablePred MayBeBlock
  | .null => inferInstanceAs (Decidable True)
  | .object own => inferInstanceAs (Decidable (own.map (·.1)).Nodup)
  | .bool _ | .int _ | .float _ | .text _ | .array _ => inferInstanceAs (Decidable False)

instance (members : List (String × Json)) : Decidable (Presented members) :=
  decidable_of_iff ((members.map (·.1)).Nodup ∧
      ∀ e ∈ members, e.1 ∈ ZoneKind.configurable.map ZoneKind.name → MayBeBlock e.2)
    ⟨fun h => ⟨h.1, h.2⟩, fun h => ⟨h.distinct, h.blocks⟩⟩

instance (members : List (String × Json)) : Decidable (WellFormed members) :=
  decidable_of_iff ("name" ∈ members.map (·.1) ∧ ∀ e ∈ members,
      e.1 = "name" ∧ SettingKind.text.admits e.2 ∨ IsSetting settings e ∨ IsBlock e)
    ⟨fun h => ⟨h.1, h.2⟩, fun h => ⟨h.named, h.typed⟩⟩

theorem isObject_iff {table : List (String × SettingKind)} {v : Json} :
    IsObject table v ↔ ∃ own, v = .object own ∧ ∀ e ∈ own, IsSetting table e := by
  cases v <;> simp [IsObject]

theorem mayBeBlock_iff {v : Json} :
    MayBeBlock v ↔ v = .null ∨ ∃ own, v = .object own ∧ (own.map (·.1)).Nodup := by
  cases v <;> simp [MayBeBlock]

variable {ms : List (String × Json)} {d : Document} {z : Zone}

/-! ## Forms of members -/

theorem exists_setting_field_iff {σ : Type} {settings : List (Setting σ)} {e : String × Json} :
    (∃ f ∈ settings.map Setting.field, f.name = e.1 ∧ f.Admits e.2) ↔
      IsSetting (settings.map Setting.entry) e := by
  rw [IsSetting]
  simp only [List.mem_map, exists_exists_and_eq_and]
  rfl

theorem presented_form_iff {B : BlockForm} {own : List (String × Json)} :
    B.form.Presented own ↔ (own.map (·.1)).Nodup :=
  ⟨fun h => h.distinct, fun distinct =>
    ⟨distinct, List.forall_mem_map.2 fun _ _ _ _ => .inr trivial⟩⟩

theorem wellFormed_form_iff {B : BlockForm} {own : List (String × Json)}
    (distinct : (own.map (·.1)).Nodup) :
    B.form.WellFormed own ↔ ∀ e ∈ own, IsSetting B.kind.settings e := by
  rw [Form.wellFormed_iff distinct, ← B.listed]
  refine (and_iff_right fun f needed => ?_).trans
    (forall₂_congr fun e _ => exists_setting_field_iff)
  exact absurd (B.lenient.symm.trans needed) Bool.false_ne_true

theorem exists_block_field_iff {c : Conventions} {e : String × Json}
    (presented : e.1 ∈ ZoneKind.configurable.map ZoneKind.name → MayBeBlock e.2) :
    (∃ f ∈ BlockForm.all.map (·.field c), f.name = e.1 ∧ f.Admits e.2) ↔ IsBlock e := by
  rw [IsBlock, ← BlockForm.kinds_all]
  simp only [List.mem_map, exists_exists_and_eq_and]
  refine exists_congr fun B => and_congr_right fun hB => and_congr_right fun name => ?_
  show (e.2 = .null ∨ ∃ own, e.2 = .object own ∧ B.form.WellFormed own) ↔ _
  rw [isObject_iff]
  refine or_congr_right' fun filled => exists_congr fun own => and_congr_right fun object => ?_
  have listed : e.1 ∈ ZoneKind.configurable.map ZoneKind.name := by
    rw [← BlockForm.kinds_all, List.map_map]
    exact List.mem_map.2 ⟨B, hB, name⟩
  have distinct := presented listed
  rw [object] at distinct
  exact wellFormed_form_iff distinct

theorem Presented.form (presented : Presented ms) (c : Conventions) :
    (form c).Presented ms where
  distinct := presented.distinct
  presented := by
    refine List.forall_mem_cons.2 ⟨fun _ _ => trivial, List.forall_mem_append.2
      ⟨List.forall_mem_map.2 fun _ _ _ _ => .inr trivial,
        List.forall_mem_map.2 fun B hB v hv => ?_⟩⟩
    have member := (Dict.find?_eq_some_iff presented.distinct).1 hv
    have listed : B.kind.name ∈ ZoneKind.configurable.map ZoneKind.name := by
      rw [← BlockForm.kinds_all, List.map_map]
      exact List.mem_map_of_mem hB
    refine (mayBeBlock_iff.1 (presented.blocks _ member listed)).imp id ?_
    rintro ⟨own, object, distinct⟩
    exact ⟨own, object, presented_form_iff.2 distinct⟩

theorem wellFormed_iff (presented : Presented ms) (c : Conventions) :
    (form c).WellFormed ms ↔ WellFormed ms := by
  have typed : ∀ e ∈ ms, (∃ f ∈ fields c, f.name = e.1 ∧ f.Admits e.2) ↔
      e.1 = "name" ∧ SettingKind.text.admits e.2 ∨ IsSetting settings e ∨ IsBlock e := by
    intro e he
    rw [fields, List.exists_mem_cons_iff]
    simp only [List.mem_append, or_and_right, exists_or]
    rw [exists_setting_field_iff, exists_block_field_iff (presented.blocks e he)]
    exact or_congr_left (and_congr_left fun _ => eq_comm)
  rw [Form.wellFormed_iff presented.distinct]
  constructor
  · rintro ⟨first, admitted⟩
    exact ⟨first nameField rfl rfl, fun e he => (typed e he).1 (admitted e he)⟩
  · rintro ⟨named, all⟩
    refine ⟨fun f _ head => ?_, fun e he => (typed e he).2 (all e he)⟩
    obtain rfl := Option.some.inj head
    exact named

/-! ## Zones of documents -/

/-- The document of a zone. -/
def ofZone (z : Zone) : Document where
  name := z.name
  mtu := z.mtu
  nodes := z.nodes
  ipam := z.ipam
  dns := z.dns
  reverseDns := z.reverseDns
  dnsZone := z.dnsZone
  simple := match z.block with | some (.simple b) => some b | _ => none
  vlan := match z.block with | some (.vlan b) => some b | _ => none
  vxlan := match z.block with | some (.vxlan b) => some b | _ => none
  qinq := match z.block with | some (.qinq b) => some b | _ => none
  evpn := match z.block with | some (.evpn b) => some b | _ => none

theorem toZone?_ofZone (z : Zone) : (ofZone z).toZone? = .ok z := by
  obtain ⟨_, _, _, _, _, _, _, _ | b⟩ := z
  · rfl
  · cases b <;> rfl

theorem ofZone_of_toZone? (h : d.toZone? = .ok z) : ofZone z = d := by
  obtain ⟨_, _, _, _, _, _, _, simple, vlan, vxlan, qinq, evpn⟩ := d
  cases simple <;> cases vlan <;> cases vxlan <;> cases qinq <;> cases evpn <;> cases h <;> rfl

theorem blocks_eq (d : Document) :
    d.blocks = BlockForm.all.flatMap fun B => ((B.get d).map B.wrap).toList := by
  simp [blocks, BlockForm.all, BlockForm.simple, BlockForm.vlan, BlockForm.vxlan, BlockForm.qinq,
    BlockForm.evpn]

theorem blocks_ofZone (z : Zone) : (ofZone z).blocks = z.block.toList := by
  obtain ⟨_, _, _, _, _, _, _, _ | b⟩ := z
  · rfl
  · cases b <;> rfl

/-! ## Encoding -/

theorem member_field {σ : Type} (s : Setting σ) (t : σ) :
    ((s.field.shows (s.field.get t)).map fun v => (s.field.name, v)).toList = s.member t := by
  show (((s.get t).map s.kind.encode).map fun v => (s.name, v)).toList = _
  rw [Option.map_map]
  rfl

theorem members_form (B : BlockForm) (b : B.Own) : B.form.members b = (B.wrap b).members := by
  rw [B.members_wrap, Form.members, List.filterMap_eq_flatMap_toList]
  show (B.settings.map Setting.field).flatMap _ = _
  rw [List.flatMap_map]
  exact List.flatMap_congr fun s _ => member_field s b

theorem member_block_field (c : Conventions) (B : BlockForm) (d : Document) :
    (((B.field c).shows ((B.field c).get d)).map fun v => ((B.field c).name, v)).toList =
      ((B.get d).map B.wrap).toList.map fun b => (b.name, Json.object b.members) := by
  show (((B.get d).map B.form.encode).map fun v => (B.kind.name, v)).toList = _
  cases B.get d with
  | none => rfl
  | some b =>
    show [(B.kind.name, Json.object (B.form.members b))] =
      [((B.wrap b).kind.name, Json.object (B.wrap b).members)]
    rw [members_form, B.kind_wrap]

/-- The members of a document: its name, its settings, and its blocks. -/
theorem members_eq (c : Conventions) (d : Document) :
    (form c).members d = ("name", .text d.name) :: (commonSettings.flatMap (·.member d) ++
      d.blocks.map fun b => (b.name, .object b.members)) := by
  have settings := List.flatMap_congr (l := commonSettings) fun s _ => member_field s d
  have blocks := List.flatMap_congr (l := BlockForm.all) fun B _ => member_block_field c B d
  rw [Form.members, List.filterMap_eq_flatMap_toList, blocks_eq, List.map_flatMap, ← settings,
    ← blocks]
  show (fields c).flatMap _ = _
  rw [fields, List.flatMap_cons, List.flatMap_append, List.flatMap_map, List.flatMap_map]
  rfl

/-- A zone is written as its document. -/
theorem encode_ofZone (c : Conventions) (z : Zone) : (form c).encode (ofZone z) = z.toJson := by
  rw [Form.encode, members_eq, blocks_ofZone, Zone.toJson]
  cases z.block <;> simp [commonSettings, Setting.member, SettingKind.encode, ofZone]

/-! ## Decoding -/

theorem read_of_decoded {c : Conventions} {datum : Datum}
    (decoded : Datum.readStructure c (layout c) {} datum = .ok d) :
    read c datum = d.toZone?.mapError .problem := by
  rw [read, decoded]
  cases h : d.toZone? <;> simp only [h] <;> rfl

theorem read_eq_ok_iff {c : Conventions} {datum : Datum} :
    read c datum = .ok z ↔ Datum.readStructure c (layout c) {} datum = .ok (ofZone z) := by
  constructor
  · intro h
    cases decoded : Datum.readStructure c (layout c) {} datum with
    | error fault => rw [read, decoded] at h; cases h
    | ok d =>
      rw [read_of_decoded decoded] at h
      cases known : d.toZone? with
      | error problem => rw [known] at h; cases h
      | ok y =>
        rw [known] at h
        cases h
        rw [ofZone_of_toZone? known]
  · intro decoded
    rw [read_of_decoded decoded, toZone?_ofZone]
    rfl

/-- A zone is read from the document that it is written as. -/
theorem read_toJson (c : Conventions) (z : Zone) : read c (.ofJson z.toJson) = .ok z := by
  rw [read_eq_ok_iff, ← encode_ofZone c]
  exact (form c).ofMembers_members (ofZone z)

theorem read_sorted_toJson (c : Conventions) (z : Zone) :
    read c (.ofJson z.toJson.sorted) = .ok z := by
  rw [read_eq_ok_iff, ← encode_ofZone c]
  exact (form c).readStructure_sorted_encode c (ofZone z)

/-- A zone is read from an object exactly if this is well-formed and the zone is written as it,
up to the order of members and to nulls. -/
theorem read_object_eq_ok_iff {c : Conventions} (presented : Presented ms) :
    read c (.ofJson (.object ms)) = .ok z ↔
      WellFormed ms ∧ z.toJson.sorted = (Json.object ms).withoutNulls.sorted := by
  rw [read_eq_ok_iff, ← encode_ofZone c, ← wellFormed_iff presented c]
  exact (form c).ofMembers_eq_ok_iff (presented.form c)

/-- Well-formed members are decoded. -/
theorem exists_decoded (c : Conventions) (presented : Presented ms) (wellFormed : WellFormed ms) :
    ∃ d, Datum.readStructure c (layout c) {} (.ofJson (.object ms)) = .ok d :=
  Form.exists_ofMembers (presented.form c) ((wellFormed_iff presented c).2 wellFormed)

/-- A block was read exactly if there is a member for it that is not null. -/
theorem isSome_get_of_decoded (c : Conventions) (presented : Presented ms)
    (decoded : Datum.readStructure c (layout c) {} (.ofJson (.object ms)) = .ok d)
    {B : BlockForm} (hB : B ∈ BlockForm.all) :
    (B.get d).isSome = ((Dict.find? B.kind.name ms).bind Json.filled?).isSome := by
  have same := ((form c).ofMembers_eq_ok_iff (presented.form c)).1 decoded |>.2
  rw [Form.encode, Json.sorted_object_eq_withoutNulls_iff ((form c).nodup_members d)
    presented.distinct] at same
  have member : B.field c ∈ (form c).fields :=
    List.mem_cons_of_mem _ (List.mem_append_right _ (List.mem_map_of_mem hB))
  have held := same (B.field c).name
  rw [(form c).find?_members member] at held
  have held : ((B.get d).map B.form.encode).map Json.sorted =
      (Dict.find? B.kind.name ms).bind Json.normal? := held
  rw [← Option.isSome_map (f := B.form.encode), ← Option.isSome_map (f := Json.sorted), held]
  cases Dict.find? B.kind.name ms with
  | none => rfl
  | some v => exact v.isSome_normal?

theorem kinds_blocks_eq_filter (d : Document) :
    d.blocks.map Block.kind =
      (BlockForm.all.filter fun B => (B.get d).isSome).map BlockForm.kind := by
  rw [blocks_eq]
  induction BlockForm.all with
  | nil => rfl
  | cons B forms ih =>
    rw [List.flatMap_cons, List.map_append, ih, List.filter_cons]
    cases B.get d <;> simp [B.kind_wrap]

/-- The blocks that were read are the ones that the members have. -/
theorem kinds_blocks (c : Conventions) (presented : Presented ms)
    (decoded : Datum.readStructure c (layout c) {} (.ofJson (.object ms)) = .ok d) :
    d.blocks.map Block.kind = blocksIn ms := by
  have there : ∀ B ∈ BlockForm.all, (B.get d).isSome =
      ((Dict.find? B.kind.name ms).bind Json.filled?).isSome := fun _ hB =>
    isSome_get_of_decoded c presented decoded hB
  rw [kinds_blocks_eq_filter, blocksIn, ← BlockForm.kinds_all, List.filter_map]
  exact congrArg _ (List.filter_congr there)

theorem toZone?_eq_ok (few : d.blocks.length ≤ 1) : ∃ z, d.toZone? = .ok z := by
  rw [toZone?]
  cases h : d.blocks with
  | nil => exact ⟨_, rfl⟩
  | cons b rest =>
    cases rest with
    | nil => exact ⟨_, rfl⟩
    | cons => rw [h] at few; simp at few

theorem toZone?_eq_error (several : 2 ≤ d.blocks.length) :
    d.toZone? = .error (.conflictingBlocks (d.blocks.map Block.name)) := by
  rw [toZone?]
  cases h : d.blocks with
  | nil => rw [h] at several; simp at several
  | cons b rest =>
    cases rest with
    | nil => rw [h] at several; simp at several
    | cons => rfl

end Document

namespace Zone

open Document

/-- A zone is read from the document that it is written as, whatever the order of members. A zone
can be read from an object exactly if everything in it is known and of its declared type and there
is at most one block; it is then written as the object without its nulls. Otherwise well-formed
objects with several blocks are refused with the names of these. -/
theorem document_codec :
    (∀ z : Zone, ofJson z.toJson = .ok z ∧ ofJson z.toJson.sorted = .ok z) ∧
    ∀ members : List (String × Json), Presented members →
      ((∃ z, ofJson (.object members) = .ok z) ↔
        WellFormed members ∧ (blocksIn members).length ≤ 1) ∧
      (∀ z, ofJson (.object members) = .ok z ↔
        WellFormed members ∧ z.toJson.sorted = (Json.object members).withoutNulls.sorted) ∧
      (WellFormed members → 2 ≤ (blocksIn members).length →
        ∃ fault : Fault, ofJson (.object members) = .error fault ∧
          fault = .problem (.conflictingBlocks ((blocksIn members).map ZoneKind.name)) ∧
          fault.message = "only one of the zone blocks may be set, found: " ++
            Text.joinWith ", " ((blocksIn members).map ZoneKind.name)) := by
  refine ⟨fun z => ⟨read_toJson _ z, read_sorted_toJson _ z⟩, fun members presented => ⟨⟨?_, ?_⟩,
    fun z => read_object_eq_ok_iff presented, fun wellFormed several => ⟨_, ?_, rfl, rfl⟩⟩⟩
  · rintro ⟨z, read⟩
    refine ⟨((read_object_eq_ok_iff presented).1 read).1, ?_⟩
    have decoded := read_eq_ok_iff.1 read
    rw [← kinds_blocks _ presented decoded, blocks_ofZone]
    cases z.block <;> simp
  · rintro ⟨wellFormed, few⟩
    obtain ⟨d, decoded⟩ := exists_decoded .jsonValue presented wellFormed
    rw [← kinds_blocks _ presented decoded, List.length_map] at few
    obtain ⟨z, known⟩ := toZone?_eq_ok few
    exact ⟨z, (read_of_decoded decoded).trans (by rw [known]; rfl)⟩
  · obtain ⟨d, decoded⟩ := exists_decoded .jsonValue presented wellFormed
    have kinds := kinds_blocks _ presented decoded
    rw [← kinds, List.length_map] at several
    have names : d.blocks.map Block.name = (blocksIn members).map ZoneKind.name := by
      rw [← kinds, List.map_map]
      rfl
    rw [← names]
    exact (read_of_decoded decoded).trans (by rw [toZone?_eq_error several]; rfl)

/-- With one of its two blocks set to null a document is read and written again. -/
theorem vlan_evpn_document_codec :
    let vlan : Json := .object [("bridge", .text "vmbr0")]
    let document (vlan : Json) : List (String × Json) := [
      ("evpn", .object [("controller", .text "ctl"), ("mac", .null), ("vrf_vxlan", .int 100)]),
      ("mtu", .int 1450), ("name", .text "zone1"), ("nodes", .array [.text "pve1"]), ("vlan", vlan)]
    let z : Zone := {
      name := "zone1"
      mtu := some 1450
      nodes := some ["pve1"]
      block := some (.evpn { controller := some "ctl", vrfVxlan := some 100 }) }
    Presented (document .null) ∧ WellFormed (document .null) ∧
      ofJson (.object (document .null)) = .ok z ∧
      Presented (document vlan) ∧ WellFormed (document vlan) ∧ ∃ fault,
        ofJson (.object (document vlan)) = .error fault ∧
          fault.message = "only one of the zone blocks may be set, found: vlan, evpn" := by
  intro vlan document z
  have presented : Presented (document .null) ∧ Presented (document vlan) := by decide +kernel
  have wellFormed : WellFormed (document .null) ∧ WellFormed (document vlan) := by decide +kernel
  obtain ⟨_, read, _⟩ := document_codec.2 _ presented.1
  obtain ⟨_, _, refused⟩ := document_codec.2 _ presented.2
  obtain ⟨fault, found, _, message⟩ := refused wellFormed.2 (by decide)
  exact ⟨presented.1, wellFormed.1, (read z).2 ⟨wellFormed.1, by decide +kernel⟩, presented.2,
    wellFormed.2, fault, found, message⟩

end Zone

end SdnZones
