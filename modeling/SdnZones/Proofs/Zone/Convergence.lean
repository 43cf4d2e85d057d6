-- SUMMARY: Carrying out a plan reaches what was desired, and then there is nothing left to do.
import SdnZones.Proofs.Zone.Change
import SdnZones.Proofs.Zone.Lifecycle

/-!
# Convergence

Whatever has to be done to a zone, carrying out the plan for it succeeds, and the cluster then
shows the desired zone with its defaults and without empty list elements (`Zone.reached_apply`).
So planning again finds nothing to do, unless there are such elements
(`Zone.plan_apply_converges`).
-/

namespace SdnZones

/-- Every stored zone has the name that it is stored under. -/
def Cluster.Keyed (c : Cluster) : Prop :=
  ∀ name fields, c.zones.get? name = some fields → nameIn fields = name

/-- What is shown under a name has that name. -/
theorem Cluster.Keyed.name_of_shows {c : Cluster} (keyed : c.Keyed) {name : String} {z : Zone}
    (shows : c.Shows name z) : z.name = name := by
  obtain ⟨fields, r, stored, decoded, read⟩ := shows
  obtain ⟨zone, _⟩ := Record.ofJson_ofDict_eq_ok_iff.1 decoded
  have key : nameIn fields = r.zone := by
    rw [nameIn, zone]
    rfl
  rw [(Zone.readFrom_of_ok read).name, ← key]
  exact keyed name fields stored

namespace Zone

/-! ## Choosing the action -/

theorem replaceReason?_eq_none_iff {prior planned : Zone} :
    replaceReason? prior planned = none ↔
      prior.name = planned.name ∧ prior.blockName = planned.blockName := by
  rw [replaceReason?]
  by_cases name : prior.name = planned.name
  · by_cases block : prior.blockName = planned.blockName <;> simp [name, block]
  · simp [name]

theorem kind_of_blockName {k : ZoneKind} {a b : Zone} (kind : a.kind = some k)
    (block : b.block ≠ none) (same : a.blockName = b.blockName) : b.kind = some k := by
  obtain ⟨ba, ha, rfl⟩ := Option.map_eq_some_iff.1 kind
  obtain ⟨bb, hb⟩ := Option.ne_none_iff_exists'.1 block
  simp only [blockName, ha, hb, Option.map_some, Option.getD_some, Block.name] at same
  have found := ZoneKind.ofName?_name ba.kind
  rw [same, ZoneKind.ofName?_name] at found
  rw [Zone.kind, hb, Option.map_some, found]

theorem blockName_of_kind {a b : Zone} (same : a.kind = b.kind) : a.blockName = b.blockName := by
  have name : ∀ z : Zone, z.block.map Block.name = z.kind.map ZoneKind.name := by
    intro z
    cases h : z.block <;> simp [kind, h, Block.name]
  rw [blockName, blockName, name, name, same]

/-- What is planned for a zone that is there. -/
theorem action_toChange (current desired : Zone) :
    (∃ reason, replaceReason? current desired = some reason ∧
        (Plan.toChange current desired).action = .replace reason) ∨
      replaceReason? current desired = none ∧
        ((Zone.changes (some current) desired = [] ∧
            (Plan.toChange current desired).action = .nothing) ∨
          (Zone.changes (some current) desired ≠ [] ∧
            (Plan.toChange current desired).action = .update)) := by
  simp only [Plan.toChange]
  cases replaceReason? current desired with
  | some reason => exact .inl ⟨reason, rfl, rfl⟩
  | none =>
    cases Zone.changes (some current) desired with
    | nil => exact .inr ⟨rfl, .inl ⟨rfl, rfl⟩⟩
    | cons change changes => exact .inr ⟨rfl, .inr ⟨List.cons_ne_nil _ _, rfl⟩⟩

/-- A zone that is read from a record and shows no change is the desired one, without the empty
elements of its lists. -/
theorem eq_pruned_of_no_changes {r : Record} {current z : Zone} {b : Block} (hb : z.block = some b)
    (read : ofRecord? r = .ok current) (sendable : Diagnostics.hasError z.unsendable = false)
    (same : Zone.changes (some current) z = []) : current = z.pruned := by
  have readFrom := readFrom_of_ok read
  obtain ⟨_, currentBlock, _, _, hc⟩ := readFrom.block
  have back := ofRecord?_toRecord hc
  rw [changes_eq_nil_iff.1 same, ofRecord?_toRecord_of_sendable hb sendable,
    readFrom.mapLists_carried] at back
  exact (Except.ok.inj back).symm

/-! ## Carrying out a plan -/

section

variable {c : Cluster} {z : Zone} (calm : c.queued = []) (accepted : z.Accepted)
include calm accepted

theorem reached_create (fresh : c.zones.get? z.name = none) :
    ∃ zones, Reached ((z.withDefaults.create []).run Cluster.transport c) []
      z.withDefaults.pruned zones := by
  have reached := run_create calm accepted.withDefaults fresh []
  rw [withDefaults_withDefaults] at reached
  exact ⟨_, reached⟩

theorem reached_apply_toChange {current : Zone} (shows : c.Shows z.name current)
    (name : current.name = z.name) :
    ∃ zones, Reached (((Plan.toChange current z.withDefaults).apply []).run Cluster.transport c) []
      z.withDefaults.pruned zones := by
  obtain ⟨b, hb⟩ := accepted.exists_block
  have named : current.name ≠ "" := by
    rw [name]
    exact accepted.name_ne_empty
  obtain ⟨fields, r, stored, decoded, read⟩ := id shows
  obtain ⟨k, _, recordKind, _, hc⟩ := (readFrom_of_ok read).block
  have kind : current.kind = some k := (readFrom_of_ok read).recordKind recordKind
  have known : (Plan.toChange current z.withDefaults).current = some current := rfl
  have wanted : (Plan.toChange current z.withDefaults).desired = z.withDefaults := rfl
  rcases action_toChange current z.withDefaults with
    ⟨reason, _, action⟩ | ⟨inPlace, ⟨same, action⟩ | ⟨_, action⟩⟩
  · -- The zone of the same name is deleted, so it can be created.
    have deleted := run_delete (z := current) calm named (name ▸ stored) []
    have fresh : (c.after (.delete (zonePath current.name)) (c.zones.erase current.name)).zones.get?
        z.name = none := (Dict.get?_erase _ _ _).trans (if_pos name.symm)
    rw [Plan.apply]
    simp only [action, known, wanted]
    rw [Procedure.run_bind, deleted]
    simp only [Diagnostics.hasError_nil, Bool.false_eq_true, if_false]
    exact reached_create (c := c.after _ _) calm accepted fresh
  · obtain rfl := eq_pruned_of_no_changes hb read accepted.sendable same
    rw [Plan.apply]
    simp only [action, known]
    exact ⟨c.zones, rfl, ⟨[], rfl, rfl⟩, rfl, shows, calm⟩
  · have desiredKind : z.withDefaults.kind = some k :=
      kind_of_blockName kind (by rw [hb]; exact Option.some_ne_none b)
        (replaceReason?_eq_none_iff.1 inPlace).2
    have reached := run_update calm accepted.withDefaults stored decoded recordKind desiredKind []
    rw [withDefaults_withDefaults] at reached
    rw [Plan.apply]
    simp only [action, wanted]
    exact ⟨_, reached⟩

end

/-- Carrying out a plan at once reaches the desired zone. -/
theorem reached_apply {desired : Zone} {c : Cluster} (calm : c.queued = []) (keyed : c.Keyed)
    {ds : Diagnostics} {p : Plan}
    (planned : ((desired.plan ds).run Cluster.transport c).1.result = some p) :
    let after := ((desired.plan ds).run Cluster.transport c).2
    ∃ zones, Reached ((p.apply []).run Cluster.transport after) [] desired.withDefaults.pruned
      zones := by
  intro after
  obtain ⟨accepted, same, fresh | shown⟩ := run_plan calm planned
  · obtain ⟨fresh, rfl⟩ := fresh
    rw [show after = _ from same]
    exact reached_create (c := c.after _ _) calm accepted fresh
  · obtain ⟨current, shows, rfl⟩ := shown
    rw [show after = _ from same]
    exact reached_apply_toChange (c := c.after _ _) calm accepted shows
      (keyed.name_of_shows shows)

/-! ## Planning again -/

/-- What is planned for a zone that is there without the empty elements of the desired lists: to
put these in, if there are any. -/
theorem action_toChange_pruned {z : Zone} (sendable : Diagnostics.hasError z.unsendable = false) :
    if "" ∈ z.elements then (Plan.toChange z.pruned z).action = .update
    else (Plan.toChange z.pruned z).action = .nothing ∧
      (Plan.toChange z.pruned z).changes = [] := by
  have inPlace : replaceReason? z.pruned z = none :=
    replaceReason?_eq_none_iff.2 ⟨rfl, blockName_of_kind kind_mapLists⟩
  have unchanged : Zone.changes (some z.pruned) z = [] ↔ "" ∉ z.elements :=
    changes_eq_nil_iff.trans (toRecord_pruned_iff sendable)
  rcases action_toChange z.pruned z with
    ⟨reason, replaced, _⟩ | ⟨_, ⟨same, action⟩ | ⟨differ, action⟩⟩
  · rw [inPlace] at replaced
    cases replaced
  · rw [if_neg (unchanged.1 same)]
    exact ⟨action, same⟩
  · rw [if_pos (Decidable.not_not.1 (mt unchanged.2 differ))]
    exact action

/-- Whatever a plan says, carrying it out at once succeeds and gives the desired zone with its
defaults and without empty list elements. Planning again then finds nothing to do, unless the
desired lists have empty elements: it tries to put them in by an update. -/
theorem plan_apply_converges (desired : Zone) (c : Cluster) (calm : c.queued = [])
    (keyed : c.Keyed) (ds again : Diagnostics) (p : Plan)
    (planned : ((desired.plan ds).run Cluster.transport c).1.result = some p) :
    let applied := (p.apply []).run Cluster.transport ((desired.plan ds).run Cluster.transport c).2
    let replanned := (desired.plan again).run Cluster.transport applied.2
    applied.1.result = some desired.withDefaults.pruned ∧
      Diagnostics.hasError applied.1.diagnostics = false ∧
      ∃ q, replanned.1.result = some q ∧
        if "" ∈ desired.withDefaults.elements then q.action = .update
        else q.action = .nothing ∧ q.changes = [] := by
  intro applied replanned
  obtain ⟨accepted, _⟩ := run_plan calm planned
  obtain ⟨zones, reached⟩ : ∃ zones, Reached applied [] desired.withDefaults.pruned zones :=
    reached_apply calm keyed planned
  have noError : Diagnostics.hasError applied.1.diagnostics = false := by
    obtain ⟨added, all, noError⟩ := reached.diagnostics
    rw [all]
    exact noError
  obtain ⟨warnings, ran⟩ := run_plan_of_shows reached.calm accepted.valid reached.shows again
  have checked : replanned.1.result =
      some (Plan.toChange desired.withDefaults.pruned desired.withDefaults) := by
    rw [show replanned = _ from ran]
    exact checked_eq_some_iff.2
      ⟨rfl, hasError_unsendable_pruned accepted.sendable, accepted.sendable⟩
  exact ⟨reached.result, noError, _, checked, action_toChange_pruned accepted.sendable⟩

/-- A zone of another kind is replaced; the empty element of the desired list never arrives. -/
theorem replacement_converges :
    let fields : Dict Json := .ofList [
      ("zone", .text "zone1"), ("type", .text "vlan"), ("bridge", .text "vmbr0"), ("tag", .int 7)]
    let c : Cluster := { zones := Dict.empty.insert "zone1" fields }
    let z : Zone := {
      name := "zone1"
      ipam := some "pve"
      block := some (.vxlan { peers := some ["10.0.0.1", ""] }) }
    let reached : Zone := { z with block := some (.vxlan { peers := some ["10.0.0.1"] }) }
    c.Keyed ∧ ∃ p, ((z.plan []).run Cluster.transport c).1.result = some p ∧
      p.action = .replace (.blockChanged "vlan" "vxlan") ∧
      let applied := (p.apply []).run Cluster.transport ((z.plan []).run Cluster.transport c).2
      applied.1.result = some reached ∧
        ∃ q, ((z.plan []).run Cluster.transport applied.2).1.result = some q ∧
          q.action = .update := by
  intro fields c z reached
  have keyed : c.Keyed := by
    intro name stored found
    rw [Dict.get?_insert] at found
    by_cases h : name = "zone1"
    · rw [if_pos h, Option.some.injEq] at found
      rw [← found, h]
      decide
    · rw [if_neg h] at found
      cases found
  let current : Zone := { name := "zone1", block := some (.vlan { bridge := some "vmbr0" }) }
  have shows : c.Shows z.name current := ⟨fields, _, by decide, rfl, rfl⟩
  obtain ⟨_, ran⟩ := run_plan_of_shows rfl (by decide) shows []
  have planned := (congrArg (fun r => r.1.result) ran).trans
    (checked_eq_some_iff.2 ⟨rfl, by decide, by decide⟩)
  obtain ⟨result, _, q, replanned, update⟩ := plan_apply_converges z c rfl keyed [] [] _ planned
  refine ⟨keyed, _, planned, by decide, result.trans (by decide), q, replanned, ?_⟩
  rw [if_pos (by decide)] at update
  exact update

end Zone

end SdnZones
