-- SUMMARY: Planning and applying fail exactly if there is no result, and then tell all errors.
import SdnZones.Command.Zones
import SdnZones.Proofs.Zone.Requests

/-!
# Failures of commands

An operation that has no result has said why, and one that has a result has said nothing against
it (`Outcome.Explained`). So a command hands out exactly what the operation gave, and a command
that fails tells the errors and not just that there is nothing (`Command.no_silent_failure`).
-/

namespace SdnZones

variable {α σ : Type}

/-- A report with errors fails with a line for each error, its summary and its detail. -/
theorem Diagnostics.result_report_of_error {ds : Diagnostics} (error : hasError ds = true) :
    (report ds).result = .error ⟨"\n".intercalate ((ds.filter fun d => d.severity = .error).map
      fun d => d.summary ++ ": " ++ d.detail), []⟩ := by
  rw [report, failure?, if_pos error]
  rfl

theorem Diagnostics.result_report_of_noError {ds : Diagnostics} (noError : hasError ds = false) :
    (report ds).result = .ok () := by
  rw [report, failure?, noError]
  rfl

namespace Command

/-- A command hands out the result of an operation. If there is none it fails in a context, and the
cause is made of the errors, the summary and the detail of each on a line. -/
def Concludes (context : String) (o : Outcome α) (result : Except Failure α) : Prop :=
  match o.result with
  | some a => result = .ok a
  | none =>
    result = .error ⟨context, ["\n".intercalate
      ((o.diagnostics.filter fun d => d.severity = .error).map fun d =>
        d.summary ++ ": " ++ d.detail)]⟩

theorem concludes_of_explained {o : Outcome α} (h : o.Explained) (context : String) :
    Concludes context o (concluded context o).result := by
  obtain ⟨result, ds⟩ := o
  cases result with
  | none =>
    have reported := Diagnostics.result_report_of_error h.hasError_of_none
    simp only [Concludes, concluded, reported, Failure.within]
  | some a =>
    have reported := Diagnostics.result_report_of_noError h.noError_of_some
    simp only [Concludes, concluded, reported]

theorem planned_eq_map (z : Zone) :
    planned z = (z.plan []).map (concluded s!"Cannot plan SDN zone '{z.name}'") := rfl

theorem applied_eq_map (p : Plan) :
    applied p = (p.apply []).map (concluded s!"Failed to apply SDN zone '{p.desired.name}'") := rfl

/-- Whoever answers, an operation begun without diagnostics has no result exactly if it reports an
error, and the commands succeed with its result or fail with its errors. -/
theorem no_silent_failure (t : Transport σ) (s : σ) :
    (∀ z : Zone, ((z.create []).run t s).1.Explained ∧ ((z.read []).run t s).1.Explained ∧
      ((z.update []).run t s).1.Explained ∧ ((z.plan []).run t s).1.Explained) ∧
    (∀ p : Plan, ((p.apply []).run t s).1.Explained) ∧
    (∀ z : Zone, Concludes s!"Cannot plan SDN zone '{z.name}'" ((z.plan []).run t s).1
      ((planned z).run t s).1.result) ∧
    ∀ p : Plan, Concludes s!"Failed to apply SDN zone '{p.desired.name}'"
      ((p.apply []).run t s).1 ((applied p).run t s).1.result := by
  have plan : ∀ z : Zone, ((z.plan []).run t s).1.Explained :=
    fun z => ((Zone.plan_always z).run t s).2.1
  have apply : ∀ p : Plan, ((p.apply []).run t s).1.Explained :=
    fun p => ((Operation.apply_always p).run t s).2
  refine ⟨fun z => ⟨?_, ?_, ?_, plan z⟩, apply, fun z => ?_, fun p => ?_⟩
  · exact ((Zone.create_always z).run t s).2
  · exact ((Zone.read_always z).run t s).2
  · exact ((Zone.update_always z).run t s).2
  · rw [planned_eq_map, Procedure.run_map]
    exact concludes_of_explained (plan z) _
  · rw [applied_eq_map, Procedure.run_map]
    exact concludes_of_explained (apply p) _

/-- A zone that breaks two rules has two lines told. A replacement that finds nothing to delete and
is then refused has the refusal told: the other is a warning. -/
theorem failing_runs_tell_errors :
    let busy : Transport Unit := {
      call := fun request s =>
        (.error (if request.method = .delete then .status 404 "gone" else .status 500 "busy"), s)
      health := fun s => (.ok true, s) }
    let current : Zone := { name := "zone0", block := some (.simple {}) }
    let desired : Zone := { name := "zone1", block := some (.simple {}) }
    ((planned (.named "z")).run busy ()).1.result = .error ⟨"Cannot plan SDN zone 'z'", [
      "Invalid Attribute Value: name \"z\" must be at least 3 characters long\n" ++
      "Missing Zone Type: exactly one of simple, vlan, vxlan, qinq or evpn must be set"]⟩ ∧
    ((applied (.toChange current desired)).run busy ()).1.result =
      .error ⟨"Failed to apply SDN zone 'zone1'", [
        "Error Creating SDN Zone: could not create SDN zone zone1: error creating SDN zone: " ++
        "API returned error: 500 - busy"]⟩ := by
  intro busy current desired
  obtain ⟨_, _, plan, apply⟩ := no_silent_failure busy ()
  have invalid : (((Zone.named "z").plan []).run busy ()).1 = ⟨none, [
      .error "Invalid Attribute Value" "name \"z\" must be at least 3 characters long",
      .error "Missing Zone Type"
        "exactly one of simple, vlan, vxlan, qinq or evpn must be set"]⟩ := by decide +kernel
  have refused : (((Plan.toChange current desired).apply []).run busy ()).1 = ⟨none, [
      .warning "SDN Zone Not Found" "SDN zone zone0 does not exist: gone",
      .error "Error Creating SDN Zone" ("could not create SDN zone zone1: " ++
        "error creating SDN zone: API returned error: 500 - busy")]⟩ := by decide
  have planned := plan (.named "z")
  have applied := apply (.toChange current desired)
  rw [invalid] at planned
  rw [refused] at applied
  exact ⟨planned, applied⟩

end Command

end SdnZones
