-- SUMMARY: Zones as they are read from records, and zones without empty list elements.
import SdnZones.Proofs.Zone.FieldNames
import SdnZones.Proofs.Zone.RoundTrip

/-!
# Reading zones

What is read from a record depends only on its name, its kind and the attributes of that kind
(`Zone.ofRecord?_congr`), and its lists survive another trip (`Zone.ReadFrom.mapLists_carried`).
Of a zone without commas in its lists all is read back but the empty elements: it is read back
`Zone.pruned`, which shows in the record exactly if there are empty elements
(`Zone.toRecord_pruned_iff`).
-/

namespace SdnZones

/-! ## What is read -/

namespace Record

variable {r s : Record} {k : ZoneKind} {b : Block}

theorem zoneKind_eq_ok_iff : r.zoneKind = .ok k ↔ r.kind = some k.name := by
  rw [zoneKind]
  cases r.kind with
  | none => simp
  | some word =>
    simp only [parseKind, Option.some.injEq]
    cases h : ZoneKind.ofName? word with
    | none =>
      have other : word ≠ k.name := by
        rintro rfl
        rw [ZoneKind.ofName?_name] at h
        cases h
      simp [other]
    | some found =>
      obtain rfl := ZoneKind.ofName?_eq_some_iff.1 h
      simp only [Except.ok.injEq]
      constructor
      · rintro rfl
        rfl
      · intro same
        rw [same, ZoneKind.ofName?_name] at h
        exact (Option.some.inj h).symm

theorem kind_block? (h : r.block? k = some b) : b.kind = k := by
  cases k with
  | faucet => cases h
  | _ =>
    obtain rfl := Option.some.inj h
    rfl

theorem described_eq_ok_iff :
    r.described = .ok (k, b) ↔ r.kind = some k.name ∧ r.block? k = some b := by
  constructor
  · intro h
    unfold described at h
    cases hk : r.kind with
    | none =>
      rw [hk] at h
      cases h
    | some word =>
      rw [hk] at h
      cases found : ZoneKind.ofName? word with
      | none => simp [found] at h
      | some k' =>
        cases block : r.block? k' with
        | none => simp [found, block] at h
        | some b' =>
          simp only [Option.getD_some, found, block, Except.ok.injEq, Prod.mk.injEq] at h
          obtain ⟨rfl, rfl⟩ := h
          exact ⟨congrArg some (ZoneKind.ofName?_eq_some_iff.1 found).symm, block⟩
  · rintro ⟨kind, block⟩
    simp only [described, kind, Option.getD_some, ZoneKind.ofName?_name, block]

theorem block?_congr (value : ∀ a ∈ k.attributes, r.value a = s.value a) :
    r.block? k = s.block? k := by
  cases k with
  | faucet => rfl
  | _ =>
    simp only [ZoneKind.attributes, List.forall_mem_cons] at value
    simp only [block?, value]

theorem faithful_elements (text : Option String) : CommaList.Faithful (elements text) := by
  intro vs h
  cases text with
  | none => cases h
  | some text =>
    rw [CommaList.elements_some, CommaList.filled?_eq_some_iff] at h
    obtain ⟨rfl, ne⟩ := h
    refine ⟨ne, fun v hv => ?_⟩
    obtain ⟨piece, filled⟩ := List.mem_filter.1 hv
    exact ⟨by simpa using filled, Text.not_mem_of_mem_splitString piece⟩

theorem faithful_block? (h : r.block? k = some b) : ∀ l ∈ b.lists, CommaList.Faithful l.2 := by
  cases k with
  | faucet => cases h
  | vxlan =>
    obtain rfl := Option.some.inj h
    intro l hl
    obtain rfl := List.mem_singleton.1 hl
    exact faithful_elements _
  | evpn =>
    obtain rfl := Option.some.inj h
    intro l hl
    obtain rfl := List.mem_singleton.1 hl
    exact faithful_elements _
  | _ =>
    obtain rfl := Option.some.inj h
    intro l hl
    cases hl

end Record

namespace Zone

variable {r s : Record} {k : ZoneKind} {z : Zone}

/-- What a zone that was read has from its record. -/
structure ReadFrom (r : Record) (z : Zone) : Prop where
  name : z.name = r.zone
  nodes : z.nodes = Record.elements (r.value .nodes)
  block : ∃ k b, r.kind = some k.name ∧ r.block? k = some b ∧ z.block = some b

theorem readFrom_of_ok (h : ofRecord? r = .ok z) : ReadFrom r z := by
  unfold ofRecord? at h
  cases described : r.described with
  | error problem =>
    rw [described] at h
    cases h
  | ok found =>
    obtain ⟨k, b⟩ := found
    rw [described] at h
    obtain ⟨kind, block⟩ := Record.described_eq_ok_iff.1 described
    cases h
    exact ⟨rfl, rfl, k, b, kind, block, rfl⟩

theorem ReadFrom.recordKind (h : ReadFrom r z) {k : ZoneKind} (kind : r.kind = some k.name) :
    z.kind = some k := by
  obtain ⟨k', b, kind', block, hb⟩ := h.block
  rw [kind, Option.some.injEq] at kind'
  have same := ZoneKind.ofName?_name k
  rw [kind', ZoneKind.ofName?_name] at same
  rw [Zone.kind, hb, Option.map_some, Record.kind_block? block, same]

theorem ReadFrom.faithful (h : ReadFrom r z) : ∀ l ∈ z.lists, CommaList.Faithful l.2 := by
  intro l hl
  rcases List.mem_cons.1 hl with rfl | hl
  · show CommaList.Faithful z.nodes
    rw [h.nodes]
    exact Record.faithful_elements _
  · obtain ⟨k, b, _, block, hb⟩ := h.block
    rw [hb, Option.map_some, Option.getD_some] at hl
    exact Record.faithful_block? block l hl

/-- The lists of a zone that was read survive another trip. -/
theorem ReadFrom.mapLists_carried (h : ReadFrom r z) : z.mapLists CommaList.carried = z :=
  mapLists_eq_self_iff.2 fun l hl => CommaList.carried_eq_self_iff.2 (h.faithful l hl)

/-- Records of one kind that agree on its attributes are read as the same zone. -/
theorem ofRecord?_congr (zone : r.zone = s.zone) (kindLeft : r.kind = some k.name)
    (kindRight : s.kind = some k.name)
    (value : ∀ a ∈ Attribute.common ++ k.attributes, r.value a = s.value a) :
    ofRecord? r = ofRecord? s := by
  have own : r.block? k = s.block? k :=
    Record.block?_congr fun a ha => value a (List.mem_append_right _ ha)
  have described : r.described = s.described := by
    simp only [Record.described, kindLeft, kindRight, Option.getD_some, ZoneKind.ofName?_name, own]
  have common : ∀ a ∈ Attribute.common, r.value a = s.value a := fun a ha =>
    value a (List.mem_append_left _ ha)
  simp only [Attribute.common, List.forall_mem_cons] at common
  rw [ofRecord?, ofRecord?, described]
  simp only [zone, common]

/-! ## Empty elements -/

/-- A zone without the empty elements of its lists. -/
def pruned (z : Zone) : Zone := z.mapLists CommaList.pruned

theorem mapLists_carried (sendable : Diagnostics.hasError z.unsendable = false) :
    z.mapLists CommaList.carried = z.pruned := by
  refine mapLists_congr fun l hl => CommaList.carried_of_no_comma fun v hv => ?_
  exact (hasError_unsendable_eq_false_iff z).1 sendable v (mem_elements_iff.2 ⟨l, hl, hv⟩)

/-- A zone that a record can carry comes back without the empty elements of its lists. -/
theorem ofRecord?_toRecord_of_sendable {b : Block} (hb : z.block = some b)
    (sendable : Diagnostics.hasError z.unsendable = false) :
    ofRecord? z.toRecord = .ok z.pruned := by
  rw [ofRecord?_toRecord hb, mapLists_carried sendable]

theorem hasError_unsendable_pruned (sendable : Diagnostics.hasError z.unsendable = false) :
    Diagnostics.hasError z.pruned.unsendable = false := by
  rw [hasError_unsendable_eq_false_iff] at sendable ⊢
  intro v hv
  obtain ⟨l, hl, hv⟩ := mem_elements_iff.1 hv
  rw [pruned, lists_mapLists] at hl
  obtain ⟨whole, hwhole, rfl⟩ := List.mem_map.1 hl
  exact sendable v (mem_elements_iff.2 ⟨whole, hwhole, (CommaList.mem_pruned_iff.1 hv).1⟩)

/-- Dropping empty elements shows in the record exactly if there are any. -/
theorem toRecord_pruned_iff (sendable : Diagnostics.hasError z.unsendable = false) :
    z.pruned.toRecord = z.toRecord ↔ "" ∉ z.elements := by
  rw [hasError_unsendable_eq_false_iff] at sendable
  have lists : ∀ l ∈ z.lists, CommaList.join (CommaList.pruned l.2) = CommaList.join l.2 ↔
      "" ∉ l.2.getD [] := fun l hl =>
    CommaList.join_pruned_iff fun v hv => sendable v (mem_elements_iff.2 ⟨l, hl, hv⟩)
  rw [pruned, toRecord_mapLists_iff, mem_elements_iff, not_exists]
  constructor
  · rintro h l ⟨hl, empty⟩
    exact (lists l hl).1 (h l hl) empty
  · intro h l hl
    exact (lists l hl).2 fun empty => h l ⟨hl, empty⟩

end Zone

end SdnZones
