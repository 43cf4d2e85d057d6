-- SUMMARY: The list settings of a zone: replacing them, and what the wire carries of them.
import SdnZones.Proofs.Text.CommaList
import SdnZones.Proofs.Zone.Record
import SdnZones.Zone.Conversion

/-!
# The lists of a zone

A zone has a few list settings (`Zone.lists`), all of which travel as comma lists.
`Zone.mapLists` replaces them all in the same way and leaves the rest of the zone alone, so
what conversion and defaults do to a zone can be said once for all its lists.
-/

namespace SdnZones

/-- A block with its lists replaced. -/
def Block.mapLists (f : Option (List String) → Option (List String)) : Block → Block
  | .vxlan b => .vxlan { b with peers := f b.peers }
  | .evpn b => .evpn { b with exitNodes := f b.exitNodes }
  | b => b

/-- A zone with its lists replaced. -/
def Zone.mapLists (f : Option (List String) → Option (List String)) (z : Zone) : Zone :=
  { z with nodes := f z.nodes, block := z.block.map (Block.mapLists f) }

/-- The elements of all lists of a zone. -/
def Zone.elements (z : Zone) : List String := z.lists.flatMap fun l => l.2.getD []

namespace Block

variable {f g : Option (List String) → Option (List String)}

@[simp] theorem kind_mapLists (b : Block) : (b.mapLists f).kind = b.kind := by cases b <;> rfl

theorem lists_mapLists (b : Block) : (b.mapLists f).lists = b.lists.map fun l => (l.1, f l.2) := by
  cases b <;> rfl

theorem mapLists_congr {b : Block} (h : ∀ l ∈ b.lists, f l.2 = g l.2) :
    b.mapLists f = b.mapLists g := by
  cases b with
  | vxlan b => simp only [mapLists, h ("vxlan.peers", b.peers) List.mem_cons_self]
  | evpn b => simp only [mapLists, h ("evpn.exitnodes", b.exitNodes) List.mem_cons_self]
  | _ => rfl

theorem eq_of_mapLists_eq_self {b : Block} (h : b.mapLists f = b) : ∀ l ∈ b.lists, f l.2 = l.2 := by
  cases b with
  | vxlan b =>
    simp only [mapLists, vxlan.injEq] at h
    simpa [lists] using congrArg VxlanBlock.peers h
  | evpn b =>
    simp only [mapLists, evpn.injEq] at h
    simpa [lists] using congrArg EvpnBlock.exitNodes h
  | _ => simp [lists]

theorem mapLists_id (b : Block) : b.mapLists id = b := by cases b <;> rfl

end Block

namespace Zone

variable {f g : Option (List String) → Option (List String)} {z : Zone}

@[simp] theorem name_mapLists : (z.mapLists f).name = z.name := rfl

@[simp] theorem kind_mapLists : (z.mapLists f).kind = z.kind := by
  cases h : z.block <;> simp [kind, mapLists, h]

theorem lists_mapLists : (z.mapLists f).lists = z.lists.map fun l => (l.1, f l.2) := by
  cases h : z.block <;> simp [lists, mapLists, h, Block.lists_mapLists]

theorem mapLists_congr (h : ∀ l ∈ z.lists, f l.2 = g l.2) : z.mapLists f = z.mapLists g := by
  have nodes : f z.nodes = g z.nodes := h ("nodes", z.nodes) List.mem_cons_self
  cases hb : z.block with
  | none => simp [mapLists, hb, nodes]
  | some b =>
    have block : b.mapLists f = b.mapLists g :=
      Block.mapLists_congr fun l hl => h l (List.mem_cons_of_mem _ (by simpa [hb] using hl))
    simp [mapLists, hb, nodes, block]

theorem mapLists_id : z.mapLists id = z := by
  obtain ⟨_, _, _, _, _, _, _, block⟩ := z
  cases block <;> simp [mapLists, Block.mapLists_id]

theorem mapLists_eq_self_iff : z.mapLists f = z ↔ ∀ l ∈ z.lists, f l.2 = l.2 := by
  constructor
  · intro h l hl
    have nodes : f z.nodes = z.nodes := congrArg Zone.nodes h
    have block : z.block.map (Block.mapLists f) = z.block := congrArg Zone.block h
    rcases List.mem_cons.1 hl with rfl | hl
    · exact nodes
    · cases hb : z.block with
      | none => simp [hb] at hl
      | some b =>
        rw [hb, Option.map_some, Option.some.injEq] at block
        exact Block.eq_of_mapLists_eq_self block l (by simpa [hb] using hl)
  · intro h
    rw [mapLists_congr (g := id) h, mapLists_id]

theorem mem_elements_iff {v : String} :
    v ∈ z.elements ↔ ∃ l ∈ z.lists, v ∈ l.2.getD [] := List.mem_flatMap

end Zone

/-! ## Records -/

/-- The record shows of the lists of a block only their texts. -/
theorem Block.value_mapLists {f : Option (List String) → Option (List String)} {b : Block}
    (h : ∀ l ∈ b.lists, CommaList.join (f l.2) = CommaList.join l.2) (a : Attribute) :
    (b.mapLists f).value a = b.value a := by
  cases b with
  | vxlan b =>
    cases a with
    | peers => exact h ("vxlan.peers", b.peers) List.mem_cons_self
    | _ => rfl
  | evpn b =>
    cases a with
    | exitNodes => exact h ("evpn.exitnodes", b.exitNodes) List.mem_cons_self
    | _ => rfl
  | _ => rfl

/-- Replacing lists does not show in the record exactly if the texts of the lists stay. -/
theorem Zone.toRecord_mapLists_iff {f : Option (List String) → Option (List String)} {z : Zone} :
    (z.mapLists f).toRecord = z.toRecord ↔
      ∀ l ∈ z.lists, CommaList.join (f l.2) = CommaList.join l.2 := by
  constructor
  · intro h l hl
    have value : ∀ a, (z.mapLists f).value a = z.value a := fun a => congrArg (fun r => r.value a) h
    rcases List.mem_cons.1 hl with rfl | hl
    · exact value .nodes
    · cases hb : z.block with
      | none => simp [hb] at hl
      | some b =>
        simp only [hb, Option.map_some, Option.getD_some] at hl
        cases b with
        | vxlan b =>
          obtain rfl := List.mem_singleton.1 hl
          have peers : (z.block.map (Block.mapLists f)).bind (·.value .peers) =
              z.block.bind (·.value .peers) := value .peers
          rw [hb] at peers
          exact peers
        | evpn b =>
          obtain rfl := List.mem_singleton.1 hl
          have exitNodes : (z.block.map (Block.mapLists f)).bind (·.value .exitNodes) =
              z.block.bind (·.value .exitNodes) := value .exitNodes
          rw [hb] at exitNodes
          exact exitNodes
        | _ => cases hl
  · intro h
    have kind : (z.mapLists f).toRecord.kind = z.toRecord.kind := by
      cases hb : z.block <;> simp [toRecord, mapLists, hb]
    have block : ∀ a, (z.mapLists f).block.bind (·.value a) = z.block.bind (·.value a) := by
      intro a
      cases hb : z.block with
      | none => simp [mapLists, hb]
      | some b =>
        have own : ∀ l ∈ b.lists, CommaList.join (f l.2) = CommaList.join l.2 := fun l hl =>
          h l (List.mem_cons_of_mem _ (by simpa [hb] using hl))
        simpa [mapLists, hb] using Block.value_mapLists own a
    refine Record.ext_value rfl kind fun a => ?_
    cases a with
    | nodes => exact h ("nodes", z.nodes) List.mem_cons_self
    | mtu => rfl
    | ipam => rfl
    | dns => rfl
    | reverseDns => rfl
    | dnsZone => rfl
    | _ => exact block _

end SdnZones
