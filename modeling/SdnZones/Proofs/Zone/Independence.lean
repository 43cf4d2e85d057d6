-- SUMMARY: What diagnostics from before change about an operation: they only stop a replacement.
import SdnZones.Proofs.Zone.Convergence
import SdnZones.Proofs.Zone.Requests

/-!
# Diagnostics from before

Begun with diagnostics, an operation makes the same requests and has the same result as begun
with none, and adds the same diagnostics to them (`Operation.Unaffected`). A replacement is the
exception. After its deletion it looks at all diagnostics, so an error from before stops it and
the zone is gone for good (`Operation.Halted`). There is no other exception
(`Operation.unaffected_iff`).
-/

namespace SdnZones

namespace Operation

variable {α σ : Type} {ds : Diagnostics} {t : Transport σ} {s : σ}

/-- Begun with diagnostics, an operation asks the same and comes to the same as begun with none,
and adds what it says then. -/
structure Unaffected (op : Operation α) (ds : Diagnostics) (t : Transport σ) (s : σ) : Prop where
  exchanges : (op.perform ds).exchanges t s = (op.perform []).exchanges t s
  run : (op.perform ds).run t s =
    (((op.perform []).run t s).1.after ds, ((op.perform []).run t s).2)

/-- A replacement is begun with an error, and its deletion reports none. -/
def Halted (ds : Diagnostics) (t : Transport σ) (s : σ) : {α : Type} → Operation α → Prop
  | _, .apply ⟨.replace _, _, some current, _⟩ =>
    Diagnostics.hasError ds = true ∧ Diagnostics.hasError ((current.delete []).run t s).1 = false
  | _, _ => False

theorem unaffected_of_append {op : Operation α}
    (append : ∀ more, op.perform (ds ++ more) = (op.perform more).map (.after ds)) :
    op.Unaffected ds t s := by
  have same : op.perform ds = (op.perform []).map (.after ds) := by simpa using append []
  constructor
  · rw [same, Procedure.exchanges_map]
  · rw [same, Procedure.run_map]

/-! ## Replacing -/

/-- Errors from before make no difference to a replacement that has stopped for its own. -/
theorem recreate_append {said : Diagnostics}
    (h : Diagnostics.hasError ds = false ∨ Diagnostics.hasError said = true) (desired : Zone) :
    desired.recreate (ds ++ said) = (desired.recreate said).map (.after ds) := by
  cases error : Diagnostics.hasError said with
  | true =>
    have errors : Diagnostics.hasError (ds ++ said) = true := by
      rw [Diagnostics.hasError_append, error, Bool.or_true]
    rw [Zone.recreate_of_error errors, Zone.recreate_of_error error]
    rfl
  | false =>
    have noError : Diagnostics.hasError ds = false := by simpa [error] using h
    have noErrors : Diagnostics.hasError (ds ++ said) = false := by
      rw [Diagnostics.hasError_append, noError, error]
      rfl
    rw [Zone.recreate_of_noError noErrors, Zone.recreate_of_noError error, Zone.create_append]

/-- An error from before shows when the deletion went well: the creation that is left out would
have had a result or said why not. -/
theorem run_recreate_ne {said : Diagnostics} (error : Diagnostics.hasError ds = true)
    (gone : Diagnostics.hasError said = false) (desired : Zone) (t : Transport σ) (s : σ) :
    ((desired.recreate (ds ++ said)).run t s).1 ≠ ((desired.recreate said).run t s).1.after ds := by
  intro same
  have errors : Diagnostics.hasError (ds ++ said) = true := by
    rw [Diagnostics.hasError_append, error, Bool.true_or]
  rw [Zone.recreate_of_error errors, Zone.recreate_of_noError gone, ← List.append_nil said,
    Zone.create_append, Procedure.run_map] at same
  have explained := ((Zone.create_always desired).run t s).2
  generalize ((desired.create []).run t s).1 = created at same explained
  obtain ⟨result, more⟩ := created
  simp only [Procedure.run, Outcome.failure, Outcome.after, List.append_nil, Outcome.mk.injEq,
    List.append_cancel_left_eq, List.self_eq_append_right] at same
  obtain ⟨rfl, rfl⟩ := same
  exact Bool.false_ne_true explained.hasError_of_none

theorem replace_unaffected_iff (reason : ReplaceReason) (desired current : Zone)
    (changes : List FieldChange) :
    (Operation.apply ⟨.replace reason, desired, some current, changes⟩).Unaffected ds t s ↔
      ¬ (Diagnostics.hasError ds = true ∧
        Diagnostics.hasError ((current.delete []).run t s).1 = false) := by
  have deleted : current.delete ds = (current.delete []).map (ds ++ ·) := by
    simpa using Zone.delete_append current ds []
  have begun : (Operation.apply ⟨.replace reason, desired, some current, changes⟩).perform ds =
      (current.delete ds).bind desired.recreate := rfl
  have fresh : (Operation.apply ⟨.replace reason, desired, some current, changes⟩).perform [] =
      (current.delete []).bind desired.recreate := rfl
  constructor
  · rintro ⟨_, same⟩ ⟨error, gone⟩
    rw [begun, fresh, deleted, Procedure.run_bind, Procedure.run_bind, Procedure.run_map] at same
    exact run_recreate_ne error gone desired t _ (congrArg Prod.fst same)
  · intro goesOn
    have either : Diagnostics.hasError ds = false ∨
        Diagnostics.hasError ((current.delete []).run t s).1 = true := by
      simpa [Classical.or_iff_not_imp_left] using goesOn
    constructor
    · rw [begun, fresh, deleted, Procedure.exchanges_bind, Procedure.exchanges_bind,
        Procedure.exchanges_map, Procedure.run_map, recreate_append either,
        Procedure.exchanges_map]
    · rw [begun, fresh, deleted, Procedure.run_bind, Procedure.run_bind, Procedure.run_map,
        recreate_append either, Procedure.run_map]

/-! ## All operations -/

/-- Diagnostics from before are an output only, except that an error among them stops a
replacement whose deletion went well. -/
theorem unaffected_iff (op : Operation α) (ds : Diagnostics) (t : Transport σ) (s : σ) :
    op.Unaffected ds t s ↔ ¬ op.Halted ds t s := by
  cases op with
  | create z => exact iff_of_true (unaffected_of_append (Zone.create_append z ds)) not_false
  | read z => exact iff_of_true (unaffected_of_append (Zone.read_append z ds)) not_false
  | update z => exact iff_of_true (unaffected_of_append (Zone.update_append z ds)) not_false
  | plan z => exact iff_of_true (unaffected_of_append (Zone.plan_append z ds)) not_false
  | delete z =>
    refine iff_of_true (unaffected_of_append fun more => ?_) not_false
    simp only [perform, Zone.delete_append, Procedure.map_map]
    rfl
  | apply p =>
    obtain ⟨action, desired, current, changes⟩ := p
    cases action with
    | create => exact iff_of_true (unaffected_of_append (Zone.create_append desired ds)) not_false
    | update => exact iff_of_true (unaffected_of_append (Zone.update_append desired ds)) not_false
    | nothing =>
      cases current with
      | none => exact iff_of_true (unaffected_of_append (Zone.create_append desired ds)) not_false
      | some current => exact iff_of_true (unaffected_of_append fun more => rfl) not_false
    | replace reason =>
      cases current with
      | none => exact iff_of_true (unaffected_of_append (Zone.create_append desired ds)) not_false
      | some current => exact replace_unaffected_iff reason desired current changes

/-- An error from another operation stops a replacement half way: the old zone is deleted and the
new one is not created, though nothing is wrong with either. -/
theorem earlier_error_stops_replacement :
    let fields : Dict Json := .ofList [("zone", .text "zone1"), ("type", .text "vlan")]
    let c : Cluster := { zones := Dict.empty.insert "zone1" fields }
    let desired : Zone := { name := "zone1", ipam := some "pve", block := some (.simple {}) }
    let earlier : Diagnostics := [.error "Error Reading SDN Zone" "could not read SDN zone zone0"]
    ∃ p, ((desired.plan []).run Cluster.transport c).1.result = some p ∧
      p.action = .replace (.blockChanged "vlan" "simple") ∧
      ((p.apply []).run Cluster.transport c).1.result = some desired ∧
      ((p.apply earlier).run Cluster.transport c).1.result = none ∧
      ((p.apply earlier).run Cluster.transport c).2.zones.get? "zone1" = none ∧
      ¬ (Operation.apply p).Unaffected earlier Cluster.transport c := by
  intro fields c desired earlier
  let current : Zone := { name := "zone1", block := some (.vlan {}) }
  have stored : c.zones.get? current.name = some fields := by decide
  have shows : c.Shows desired.name current := ⟨fields, _, stored, rfl, rfl⟩
  have accepted : desired.Accepted := ⟨by decide, by decide⟩
  have complete : desired.withDefaults = desired := by decide
  have pruned : desired.pruned = desired := by decide
  have planned := Zone.planned_of_shows rfl accepted shows (by decide) []
  rw [complete] at planned
  obtain ⟨_, reached⟩ := Zone.reached_apply_toChange (c := c) (z := desired) rfl accepted shows rfl
  rw [complete, pruned] at reached
  have stopped : ((Plan.toChange current desired).apply earlier).run Cluster.transport c =
      (.failure earlier, c.after (.delete (zonePath "zone1")) (c.zones.erase "zone1")) := by
    have replaces : (Plan.toChange current desired).apply earlier =
        (current.delete earlier).bind desired.recreate := rfl
    rw [replaces, Procedure.run_bind, Zone.run_delete rfl (by decide) stored]
    rfl
  have replacement : (Plan.toChange current desired).action =
      .replace (.blockChanged "vlan" "simple") := by decide
  generalize Plan.toChange current desired = p at *
  have nothing : ((p.apply earlier).run Cluster.transport c).1.result = none := by rw [stopped]; rfl
  refine ⟨p, planned, replacement, reached.result, nothing, ?_, fun unaffected => ?_⟩
  · rw [stopped]
    exact (Dict.get?_erase _ _ _).trans (if_pos rfl)
  · have same := congrArg (fun ran => ran.1.result) unaffected.run
    exact Option.some_ne_none desired (reached.result.symm.trans (same.symm.trans nothing))

end Operation

end SdnZones
