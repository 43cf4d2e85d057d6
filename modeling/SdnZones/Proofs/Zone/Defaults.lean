-- SUMMARY: What defaults change about a zone: nothing but the attributes that they fill in.
import SdnZones.Proofs.Zone.Patch
import SdnZones.Proofs.Zone.Projection

/-!
# Changes by defaults

Between zones of one name and kind the changes are those of the attributes, in the order of these
(`Zone.changes_eq_filterMap`). Defaults give a value to attributes that have none, and leave
everything else about a zone as it is (`Zone.value_withDefaults`). So between a zone that was read
and the same zone with its defaults the changes are the attributes that the record has no value for
(`Zone.changes_withDefaults`).
-/

namespace SdnZones

variable {z current desired : Zone} {r : Record} {k : ZoneKind}

/-! ## Changes of attributes -/

/-- The change of an attribute, unless its values are the same. -/
def Attribute.change? (a : Attribute) (before after : Option a.Value) : Option FieldChange :=
  if before = after then none
  else some ⟨a.wireName, (before.map a.kind.encode).map Json.shown,
    (after.map a.kind.encode).map Json.shown⟩

theorem Attribute.pairwise_all : all.Pairwise fun a b => a.wireName < b.wireName := by
  decide +kernel

/-- The change of the field of an attribute. -/
theorem Record.change?_wireName (r s : Record) (a : Attribute) :
    FieldChange.change? r.fields s.fields a.wireName = a.change? (r.value a) (s.value a) := by
  rw [FieldChange.change?, get?_fields_wireName, get?_fields_wireName, Attribute.change?]
  by_cases same : r.value a = s.value a
  · rw [same, if_pos rfl, if_pos rfl]
  · rw [if_neg same, if_neg fun shown => same (ValueKind.eq_of_shown shown)]

namespace FieldChange

theorem mem_between_iff_change? {before after : Dict Json} {c : FieldChange} :
    c ∈ between before after ↔ change? before after c.field = some c :=
  mem_between_iff.trans (change?_eq_some_iff.trans (and_iff_right rfl)).symm

/-- Changes in ascending order of their fields are determined by which they are. -/
theorem eq_of_mem_iff {l m : List FieldChange} (hl : l.Pairwise fun c d => c.field < d.field)
    (hm : m.Pairwise fun c d => c.field < d.field) (h : ∀ c, c ∈ l ↔ c ∈ m) : l = m := by
  have asymm : Std.Asymm fun c d : FieldChange => c.field < d.field :=
    ⟨fun _ _ lt gt => lt_asymm lt gt⟩
  exact hl.eq_of_mem_iff hm h

end FieldChange

namespace Zone

/-- The changes between zones of one name and kind, attribute by attribute. -/
theorem changes_eq_filterMap (name : current.name = desired.name)
    (kind : current.kind = desired.kind) :
    changes (some current) desired =
      Attribute.all.filterMap fun a => a.change? (current.value a) (desired.value a) := by
  have change : ∀ a : Attribute, a.change? (current.value a) (desired.value a) =
      FieldChange.change? current.toRecord.fields desired.toRecord.fields a.wireName :=
    fun a => (Record.change?_wireName current.toRecord desired.toRecord a).symm
  simp only [change]
  -- Both sides are in ascending order, so it is left to show that they have the same members.
  refine FieldChange.eq_of_mem_iff (FieldChange.pairwise_between _ _) ?_ fun c => ?_
  · refine List.Pairwise.filterMap _ (fun a b lt c hc d hd => ?_) Attribute.pairwise_all
    rw [(FieldChange.change?_eq_some_iff.1 hc).1, (FieldChange.change?_eq_some_iff.1 hd).1]
    exact lt
  · rw [List.mem_filterMap]
    constructor
    · intro hc
      obtain ⟨a, _, field⟩ := List.mem_map.1 (managed_of_mem_changes kind name hc)
      exact ⟨a, a.mem_all, field ▸ FieldChange.mem_between_iff_change?.1 hc⟩
    · rintro ⟨a, _, changed⟩
      have field := (FieldChange.change?_eq_some_iff.1 changed).1
      exact FieldChange.mem_between_iff_change?.2 (field ▸ changed)

end Zone

/-! ## Defaults -/

/-- The default of an attribute for zones of a kind. -/
def Attribute.default? (k : Option ZoneKind) : (a : Attribute) → Option a.Value
  | .ipam => some defaultIpam
  | .vlanProtocol => if k = some .qinq then some defaultVlanProtocol else none
  | _ => none

theorem Attribute.default?_of_ne {a : Attribute} (ipam : a ≠ .ipam) (protocol : a ≠ .vlanProtocol)
    (k : Option ZoneKind) : a.default? k = none := by
  cases a <;> first | rfl | contradiction

theorem CommaList.join_dropEmptyList (values : Option (List String)) :
    join (dropEmptyList values) = join values := by
  rcases values with _ | _ | _ <;> rfl

theorem getD_dropEmptyList (values : Option (List String)) :
    (dropEmptyList values).getD [] = values.getD [] := by
  rcases values with _ | _ | _ <;> rfl

namespace Block

theorem value_withDefaults_of_ne (b : Block) {a : Attribute} (protocol : a ≠ .vlanProtocol) :
    b.withDefaults.value a = b.value a := by
  cases b with
  | simple b => rfl
  | vlan b => rfl
  | qinq b => cases a <;> first | rfl | contradiction
  | vxlan b => cases a <;> first | rfl | exact CommaList.join_dropEmptyList _
  | evpn b => cases a <;> first | rfl | exact CommaList.join_dropEmptyList _

theorem value_withDefaults_vlanProtocol (b : Block) :
    b.withDefaults.value .vlanProtocol =
      (b.value .vlanProtocol).or (Attribute.vlanProtocol.default? (some b.kind)) := by
  cases b with
  | qinq b =>
    show some (b.vlanProtocol.getD defaultVlanProtocol) = b.vlanProtocol.or _
    cases b.vlanProtocol <;> rfl
  | _ => rfl

theorem unsendable_withDefaults (b : Block) :
    (b.withDefaults.lists.flatMap fun l => unsendableElements l.1 l.2) =
      b.lists.flatMap fun l => unsendableElements l.1 l.2 := by
  cases b <;> simp [withDefaults, lists, unsendableElements, getD_dropEmptyList]

end Block

namespace Zone

theorem value_withDefaults_of_ne (z : Zone) {a : Attribute} (ipam : a ≠ .ipam)
    (protocol : a ≠ .vlanProtocol) : z.withDefaults.value a = z.value a := by
  by_cases common : a ∈ Attribute.common
  · cases a <;> first | rfl | exact CommaList.join_dropEmptyList _ | contradiction
  · rw [value_of_not_common common, value_of_not_common common]
    show (z.block.map Block.withDefaults).bind _ = _
    cases z.block with
    | none => rfl
    | some b => exact b.value_withDefaults_of_ne protocol

/-- With its defaults a zone gives for an attribute what it gave before, or else the default. -/
theorem value_withDefaults (z : Zone) (a : Attribute) :
    z.withDefaults.value a = (z.value a).or (a.default? z.kind) := by
  by_cases ipam : a = .ipam
  · subst ipam
    show some (z.ipam.getD defaultIpam) = z.ipam.or _
    cases z.ipam <;> rfl
  · by_cases protocol : a = .vlanProtocol
    · subst protocol
      rw [value_of_not_common (by decide), value_of_not_common (by decide), kind]
      show (z.block.map Block.withDefaults).bind _ = _
      cases z.block with
      | none => rfl
      | some b => exact b.value_withDefaults_vlanProtocol
    · rw [Attribute.default?_of_ne ipam protocol, Option.or_none]
      exact z.value_withDefaults_of_ne ipam protocol

theorem unsendable_withDefaults (z : Zone) : z.withDefaults.unsendable = z.unsendable := by
  have nodes : unsendableElements "nodes" (dropEmptyList z.nodes) =
      unsendableElements "nodes" z.nodes := by
    rw [unsendableElements, unsendableElements, getD_dropEmptyList]
  rw [unsendable, unsendable, lists, lists, List.flatMap_cons, List.flatMap_cons]
  show unsendableElements _ (dropEmptyList z.nodes) ++
    (((z.block.map Block.withDefaults).map Block.lists).getD []).flatMap _ = _
  rw [nodes]
  cases z.block with
  | none => rfl
  | some b => exact congrArg _ b.unsendable_withDefaults

/-- Defaults need no new zone. -/
theorem replaceReason?_withDefaults (z : Zone) : replaceReason? z z.withDefaults = none :=
  replaceReason?_eq_none_iff.2 ⟨rfl, blockName_of_kind kind_withDefaults.symm⟩

end Zone

/-- A default changes what has no value. -/
theorem Attribute.change?_or (a : Attribute) (v d : Option a.Value) :
    a.change? v (v.or d) =
      if v = none then d.map fun x => ⟨a.wireName, none, some (a.kind.encode x).shown⟩
      else none := by
  cases v with
  | none => cases d <;> rfl
  | some x => rw [Option.some_or, change?, if_pos rfl, if_neg (Option.some_ne_none x)]

namespace Zone

/-- The change of an attribute by its default. -/
def defaultChange? (z : Zone) (a : Attribute) : Option FieldChange :=
  if z.value a = none then
    (a.default? z.kind).map fun x => ⟨a.wireName, none, some (a.kind.encode x).shown⟩
  else none

theorem defaultChange?_of_ne (z : Zone) {a : Attribute} (ipam : a ≠ .ipam)
    (protocol : a ≠ .vlanProtocol) : z.defaultChange? a = none := by
  rw [defaultChange?, Attribute.default?_of_ne ipam protocol, Option.map_none, ite_self]

theorem changes_withDefaults_eq_append (z : Zone) :
    changes (some z) z.withDefaults =
      (z.defaultChange? .ipam).toList ++ (z.defaultChange? .vlanProtocol).toList := by
  have change : ∀ a : Attribute, a.change? (z.value a) (z.withDefaults.value a) =
      z.defaultChange? a := fun a => by
    rw [value_withDefaults, Attribute.change?_or, defaultChange?]
  rw [changes_eq_filterMap name_withDefaults.symm kind_withDefaults.symm,
    List.filterMap_eq_flatMap_toList]
  simp only [change]
  simp [Attribute.all, defaultChange?_of_ne]

end Zone

/-- The changes by defaults to a zone of some kind that is read from a record. -/
def Record.defaulted (r : Record) (k : ZoneKind) : List FieldChange :=
  (if r.value .ipam = none then [⟨"ipam", none, some "pve"⟩] else []) ++
    if k = .qinq ∧ r.value .vlanProtocol = none then [⟨"vlan-protocol", none, some "802.1q"⟩]
    else []

namespace Zone

/-- The defaults of a zone that was read change what its record has no value for. -/
theorem changes_withDefaults (read : ofRecord? r = .ok z) (kind : r.kind = some k.name) :
    changes (some z) z.withDefaults = r.defaulted k := by
  have zoneKind : z.kind = some k := (readFrom_of_ok read).recordKind kind
  have ipam : z.value .ipam = r.value .ipam := value_of_common read (by decide)
  have protocol : k = .qinq → z.value .vlanProtocol = r.value .vlanProtocol := by
    rintro rfl
    exact congrArg (·.value .vlanProtocol) (toRecord_eq_projected read kind)
  rw [changes_withDefaults_eq_append, Record.defaulted]
  congr 1
  · rw [defaultChange?, ipam]
    split <;> rfl
  · simp only [defaultChange?, Attribute.default?, zoneKind, Option.some.injEq]
    by_cases qinq : k = .qinq
    · simp only [qinq, protocol qinq, true_and, if_true]
      split <;> rfl
    · simp [qinq]

end Zone

end SdnZones
