-- SUMMARY: After the deletion of a planned replacement only the cluster can refuse the new zone.
import SdnZones.Proofs.Zone.Requests

/-!
# Replacements

A replacement deletes before it checks what it is to create. The check is of no consequence:
the zone of a plan is `Zone.Prepared`, so preparing it once more finds nothing. Once the old zone
is gone the new one is therefore posted, whenever and wherever the plan is carried out
(`Plan.replacement_not_stranded`).
-/

namespace SdnZones

/-- A zone with its defaults that breaks no constraint and can be carried by a record. -/
structure Zone.Prepared (z : Zone) : Prop where
  withDefaults : z.withDefaults = z
  validate : z.validate = []
  unsendable : z.unsendable = []

namespace Zone

variable {z : Zone}

/-- Preparing is done once and for all. -/
theorem Accepted.prepared (h : z.Accepted) : z.withDefaults.Prepared where
  withDefaults := withDefaults_withDefaults z
  validate := h.validate_eq_nil
  unsendable := h.unsendable_eq_nil

theorem Prepared.accepted (h : z.Prepared) : z.Accepted := by
  constructor
  · rw [h.withDefaults, h.validate]
    rfl
  · rw [h.withDefaults, h.unsendable]
    rfl

/-- Creating a prepared zone begins with the post of its record. -/
theorem Prepared.posts {es : List Exchange} (h : z.Prepared) (creates : z.Creates es) :
    ∃ reply rest, es = ⟨.post zonesRoot (.ofDict z.toRecord.fields), reply⟩ :: rest := by
  rw [Creates, h.withDefaults] at creates
  obtain ⟨_, refused | written⟩ | ⟨refused, _⟩ := creates
  · exact ⟨_, [], rfl⟩
  · exact ⟨_, [_], rfl⟩
  · exact absurd h.accepted refused

end Zone

namespace Plan

variable {σ : Type} {t : Transport σ} {s : σ}

/-- The old zone is deleted. If it is gone then, the new one is posted next; otherwise that is all,
and there is an error. -/
def PostsOnceGone (p : Plan) (current : Zone) (es : List Exchange) (o : Outcome Zone) : Prop :=
  ∃ reply rest, es = ⟨.delete (zonePath current.name), reply⟩ :: rest ∧
    if Reply.meansGone reply then
      ∃ posted others,
        rest = ⟨.post zonesRoot (.ofDict p.desired.toRecord.fields), posted⟩ :: others
    else rest = [] ∧ Diagnostics.hasError o.diagnostics = true

/-- What is planned, with whatever diagnostics, is to reach a prepared zone. -/
theorem plannable_of_planned {z : Zone} {ds : Diagnostics} {p : Plan}
    (planned : ((z.plan ds).run t s).1.result = some p) : z.Plannable p := by
  have same : z.plan ds = (z.plan []).map (.after ds) := by simpa using Zone.plan_append z ds []
  simp only [same, Procedure.run_map, Outcome.result_after] at planned
  exact ((Zone.plan_always z).run t s).2.2 p planned

theorem prepared_of_plannable {z : Zone} {p : Plan} (h : z.Plannable p) : p.desired.Prepared := by
  obtain ⟨accepted, rfl | ⟨current, rfl⟩⟩ := h
  · exact accepted.prepared
  · exact accepted.prepared

/-- Only what is there is replaced. -/
theorem current_of_plannable {z : Zone} {p : Plan} (h : z.Plannable p) {reason : ReplaceReason}
    (replaces : p.action = .replace reason) : ∃ current, p.current = some current := by
  obtain ⟨_, rfl | ⟨current, rfl⟩⟩ := h
  · cases replaces
  · exact ⟨current, rfl⟩

theorem apply_replace_always {p : Plan} {reason : ReplaceReason} {current : Zone}
    (replaces : p.action = .replace reason) (known : p.current = some current)
    (prepared : p.desired.Prepared) : (p.apply []).Always (p.PostsOnceGone current) := by
  have carriedOut : p.apply [] = (current.delete []).bind p.desired.recreate := by
    rw [apply, replaces, known]
    rfl
  rw [carriedOut]
  refine (Zone.recreate_always current p.desired).mono fun es o ⟨exchanged, _⟩ => ?_
  obtain ⟨reply, rest, asked, goesOn⟩ := exchanged
  refine ⟨reply, rest, asked, ?_⟩
  split
  · rename_i gone
    rw [if_pos gone] at goesOn
    exact prepared.posts goesOn
  · rename_i still
    rw [if_neg still] at goesOn
    exact goesOn

/-- Whatever the replies were, a plan is for a prepared zone. So when a replacement is carried out
later, over any transport, the deletion is followed by the post unless the cluster refuses it. -/
theorem replacement_not_stranded {z : Zone} {ds : Diagnostics} {p : Plan}
    (planned : ((z.plan ds).run t s).1.result = some p) :
    p.desired.Prepared ∧ ∀ reason, p.action = .replace reason →
      ∃ current, p.current = some current ∧
        ∀ {τ : Type} (later : Transport τ) (s' : τ),
          p.PostsOnceGone current ((p.apply []).exchanges later s')
            ((p.apply []).run later s').1 := by
  have plannable := plannable_of_planned planned
  have prepared := prepared_of_plannable plannable
  refine ⟨prepared, fun reason replaces => ?_⟩
  obtain ⟨current, known⟩ := current_of_plannable plannable replaces
  exact ⟨current, known, fun later s' =>
    (apply_replace_always replaces known prepared).run later s'⟩

/-- A zone of another kind is there; carried out when it is there no more, the plan goes on. -/
theorem vlan_replacement_not_stranded :
    let fields : Dict Json := .ofList [("zone", .text "zone1"), ("type", .text "vlan")]
    let c : Cluster := { zones := Dict.empty.insert "zone1" fields }
    let bare : Cluster := { zones := Dict.empty }
    let z : Zone := { name := "zone1", block := some (.vxlan { peers := some ["10.0.0.1"] }) }
    ∃ p current, ((z.plan []).run Cluster.transport c).1.result = some p ∧
      p.action = .replace (.blockChanged "vlan" "vxlan") ∧ p.desired.Prepared ∧
      p.current = some current ∧
      p.PostsOnceGone current ((p.apply []).exchanges Cluster.transport bare)
        ((p.apply []).run Cluster.transport bare).1 := by
  intro fields c bare z
  let current : Zone := { name := "zone1", block := some (.vlan {}) }
  have shows : c.Shows z.name current := ⟨fields, _, by decide, rfl, rfl⟩
  have planned := Zone.planned_of_shows rfl ⟨by decide, by decide⟩ shows (by decide) []
  have replaces : (Plan.toChange current z.withDefaults).action =
      .replace (.blockChanged "vlan" "vxlan") := by decide
  obtain ⟨prepared, carriedOut⟩ := replacement_not_stranded planned
  obtain ⟨found, known, posts⟩ := carriedOut _ replaces
  exact ⟨_, found, planned, replaces, prepared, known, posts Cluster.transport bare⟩

end Plan

end SdnZones
