-- SUMMARY: The operations on zones as one type, and what they do with diagnostics from before.
import SdnZones.Proofs.Api.Runs
import SdnZones.Proofs.Zone.Rules
import SdnZones.Zone.Lifecycle

/-!
# Operations

Creating and updating are one procedure with two requests, `Zone.submit`. An operation that is
begun with more diagnostics is the same procedure and puts these in front of what it says
(`Zone.submit_append` and its companions).
-/

namespace SdnZones

variable {α σ : Type}

/-- An outcome with diagnostics from before. -/
def Outcome.after (ds : Diagnostics) (o : Outcome α) : Outcome α := ⟨o.result, ds ++ o.diagnostics⟩

@[simp] theorem Outcome.result_after (ds : Diagnostics) (o : Outcome α) :
    (o.after ds).result = o.result := rfl

/-! ## Operations -/

/-- What is done with a zone or with a plan, by the type of what comes of it. -/
inductive Operation : Type → Type 1 where
  | create (z : Zone) : Operation Zone
  | read (z : Zone) : Operation Zone
  | update (z : Zone) : Operation Zone
  | delete (z : Zone) : Operation Unit
  | plan (z : Zone) : Operation Plan
  | apply (p : Plan) : Operation Zone

namespace Operation

/-- The procedure of an operation that is begun with diagnostics. -/
def perform : {α : Type} → Operation α → Diagnostics → Procedure (Outcome α)
  | _, .create z, ds => z.create ds
  | _, .read z, ds => z.read ds
  | _, .update z, ds => z.update ds
  | _, .delete z, ds => (z.delete ds).map (.success ())
  | _, .plan z, ds => z.plan ds
  | _, .apply p, ds => p.apply ds

end Operation

namespace Zone

/-! ## Checking, writing and reading back -/

/-- Check a zone with its defaults, write it and read it back. -/
def submit (plan : Zone) (write : Procedure (Except ZonesError Unit))
    (complaint : ZonesError → Diagnostic) (ds : Diagnostics) : Procedure (Outcome Zone) :=
  let zone := plan.withDefaults
  if Diagnostics.hasError zone.validate then .done (.failure (ds ++ zone.validate))
  else if Diagnostics.hasError zone.unsendable then
    .done (.failure (ds ++ zone.validate ++ zone.unsendable))
  else
    let ds := ds ++ zone.validate ++ zone.unsendable
    write.bind fun
      | .ok () => readBack zone.name ds
      | .error e => .done ⟨none, ds ++ [complaint e]⟩

theorem create_eq_submit (z : Zone) (ds : Diagnostics) :
    z.create ds = z.submit (Zones.create z.withDefaults.toRecord) (fun e =>
      .error "Error Creating SDN Zone" s!"could not create SDN zone {z.name}: {e.message}") ds :=
  rfl

theorem update_eq_submit (z : Zone) (ds : Diagnostics) :
    z.update ds = z.submit (Zones.update z.name z.withDefaults.toUpdate) (fun e =>
      .error "Error Updating SDN Zone" s!"could not update SDN zone {z.name}: {e.message}") ds :=
  rfl

section

variable {z : Zone} (write : Procedure (Except ZonesError Unit))
  (complaint : ZonesError → Diagnostic)

theorem submit_of_accepted (accepted : z.Accepted) (ds : Diagnostics) :
    z.submit write complaint ds = write.bind fun
      | .ok () => readBack z.name ds
      | .error e => .done ⟨none, ds ++ [complaint e]⟩ := by
  have validate : z.withDefaults.validate = [] := accepted.validate_eq_nil
  have unsendable : z.withDefaults.unsendable = [] := accepted.unsendable_eq_nil
  simp only [submit, validate, unsendable, Diagnostics.hasError_nil, Bool.false_eq_true, if_false,
    List.append_nil, name_withDefaults]

/-- A zone that is not accepted comes to nothing, for errors that are all in the zone. -/
theorem submit_of_not_accepted (refused : ¬ z.Accepted) :
    ∃ errors, Diagnostics.hasError errors = true ∧
      ∀ ds, z.submit write complaint ds = .done (.failure (ds ++ errors)) := by
  cases valid : Diagnostics.hasError z.withDefaults.validate with
  | true =>
    refine ⟨z.withDefaults.validate, valid, fun ds => ?_⟩
    simp only [submit, valid, if_true]
  | false =>
    have unsendable : Diagnostics.hasError z.withDefaults.unsendable = true := by
      rw [← Bool.not_eq_false]
      exact fun sendable => refused ⟨valid, sendable⟩
    refine ⟨z.withDefaults.validate ++ z.withDefaults.unsendable, ?_, fun ds => ?_⟩
    · rw [Diagnostics.hasError_append, unsendable, Bool.or_true]
    · simp only [submit, valid, unsendable, Bool.false_eq_true, if_false, if_true,
        List.append_assoc]

end

/-! ## Replacing -/

/-- Go on after the deletion of a replacement: create the new zone unless there is an error. -/
def recreate (desired : Zone) (said : Diagnostics) : Procedure (Outcome Zone) :=
  if Diagnostics.hasError said then .done (.failure said) else desired.create said

theorem recreate_of_error {said : Diagnostics} (error : Diagnostics.hasError said = true)
    (desired : Zone) : desired.recreate said = .done (.failure said) := if_pos error

theorem recreate_of_noError {said : Diagnostics} (noError : Diagnostics.hasError said = false)
    (desired : Zone) : desired.recreate said = desired.create said := by
  rw [recreate, noError]
  rfl

/-! ## Diagnostics from before -/

theorem converted_append (r : Record) (ds more : Diagnostics) :
    converted r (ds ++ more) = (converted r more).after ds := by
  simp only [converted]
  cases ofRecord? r with
  | ok zone => simp only [Outcome.success, Outcome.after, List.append_assoc]
  | error problem => simp only [Outcome.failed, Outcome.after, List.append_assoc]

theorem readBack_append (name : String) (ds more : Diagnostics) :
    readBack name (ds ++ more) = (readBack name more).map (.after ds) := by
  rw [readBack, readBack, Procedure.map_bind]
  refine congrArg _ (funext fun got => ?_)
  cases got with
  | ok record => exact congrArg Procedure.done (converted_append record ds more)
  | error e => simp only [Procedure.map_done, Outcome.failed, Outcome.after, List.append_assoc]

theorem submit_append (z : Zone) (write : Procedure (Except ZonesError Unit))
    (complaint : ZonesError → Diagnostic) (ds more : Diagnostics) :
    z.submit write complaint (ds ++ more) = (z.submit write complaint more).map (.after ds) := by
  by_cases accepted : z.Accepted
  · rw [submit_of_accepted write complaint accepted, submit_of_accepted write complaint accepted,
      Procedure.map_bind]
    refine congrArg _ (funext fun done => ?_)
    cases done with
    | ok u => exact readBack_append z.name ds more
    | error e => simp only [Procedure.map_done, Outcome.after, List.append_assoc]
  · obtain ⟨errors, _, refused⟩ := submit_of_not_accepted write complaint accepted
    simp only [refused, Procedure.map_done, Outcome.failure, Outcome.after, List.append_assoc]

theorem create_append (z : Zone) (ds more : Diagnostics) :
    z.create (ds ++ more) = (z.create more).map (.after ds) := by
  rw [create_eq_submit, create_eq_submit, submit_append]

theorem update_append (z : Zone) (ds more : Diagnostics) :
    z.update (ds ++ more) = (z.update more).map (.after ds) := by
  rw [update_eq_submit, update_eq_submit, submit_append]

theorem read_append (z : Zone) (ds more : Diagnostics) :
    z.read (ds ++ more) = (z.read more).map (.after ds) := by
  rw [read, read, Procedure.map_bind]
  refine congrArg _ (funext fun got => ?_)
  cases got with
  | ok record => exact congrArg Procedure.done (converted_append record ds more)
  | error e =>
    simp only [Outcome.success, Outcome.failed]
    split <;> simp only [Procedure.map_done, Outcome.after, List.append_assoc]

theorem delete_append (z : Zone) (ds more : Diagnostics) :
    z.delete (ds ++ more) = (z.delete more).map (ds ++ ·) := by
  rw [delete, delete, Procedure.map_bind]
  refine congrArg _ (funext fun done => ?_)
  cases done with
  | ok u => rfl
  | error e =>
    simp only
    split <;> simp only [Procedure.map_done, List.append_assoc]

end Zone

theorem Plan.checked_append (p : Plan) (ds more : Diagnostics) :
    p.checked (ds ++ more) = (p.checked more).after ds := by
  simp only [checked]
  split <;> simp only [Outcome.failure, Outcome.success, Outcome.after, List.append_assoc]

theorem Zone.plan_append (z : Zone) (ds more : Diagnostics) :
    z.plan (ds ++ more) = (z.plan more).map (.after ds) := by
  simp only [plan]
  split
  · simp only [Procedure.map_done, Outcome.failure, Outcome.after, List.append_assoc]
  · rw [Procedure.map_bind]
    refine congrArg _ (funext fun got => ?_)
    cases got with
    | ok record =>
      simp only [List.append_assoc, converted_append record ds]
      obtain ⟨result, said⟩ := converted record (more ++ z.withDefaults.validate)
      cases result with
      | none => rfl
      | some current => exact congrArg Procedure.done (Plan.checked_append _ ds said)
    | error e =>
      simp only [List.append_assoc, Plan.checked_append, Outcome.failed]
      split
      · rfl
      · simp only [Procedure.map_done, Outcome.after]

end SdnZones
