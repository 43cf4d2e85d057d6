-- SUMMARY: What operations ask, on behalf of which zone, and sessions of operations.
import SdnZones.Proofs.Zone.Requests

/-!
# Subjects of operations

Every request that an operation makes is made on behalf of its subject, or deletes the zone that
is to be replaced (`Operation.exchanges_asked`), with whatever diagnostics it is begun and whoever
answers. There are four requests on behalf of a zone, and the two that write are made only if the
zone is accepted (`Zone.Asks`). A session is a list of operations, performed one after another.
-/

namespace SdnZones

variable {α σ : Type}

/-- The requests that are made on behalf of a zone. -/
inductive Zone.Asks (z : Zone) : Request → Prop where
  | read : z.Asks (.get (zonePath z.name))
  | create (accepted : z.Accepted) :
    z.Asks (.post zonesRoot (.ofDict z.withDefaults.toRecord.fields))
  | update (accepted : z.Accepted) :
    z.Asks (.put (zonePath z.name) (.ofDict z.withDefaults.toUpdate.fields))
  | delete : z.Asks (.delete (zonePath z.name))

namespace Operation

/-- The zone that an operation is about; of a plan it is the desired one. -/
def subject : {α : Type} → Operation α → Zone
  | _, .create z => z
  | _, .read z => z
  | _, .update z => z
  | _, .delete z => z
  | _, .plan z => z
  | _, .apply p => p.desired

/-- The zone that an operation may have to replace. -/
def replaced? : {α : Type} → Operation α → Option Zone
  | _, .apply p => p.current
  | _, _ => none

/-- The requests that an operation makes. -/
inductive Asks (op : Operation α) : Request → Prop where
  | subject {request : Request} (asks : op.subject.Asks request) : op.Asks request
  | replaced {z : Zone} (replaced : op.replaced? = some z) :
    op.Asks (.delete (zonePath z.name))

end Operation

namespace Zone

variable {z : Zone} {es : List Exchange}

theorem asks_of_submits {request : Request} (asks : z.Accepted → z.Asks request)
    (h : z.Submits request es) : ∀ e ∈ es, z.Asks e.request := by
  obtain ⟨accepted, refused | written⟩ | ⟨_, rfl⟩ := h
  · exact List.forall_mem_singleton.2 (asks accepted)
  · exact List.forall_mem_cons.2 ⟨asks accepted, List.forall_mem_singleton.2 .read⟩
  · exact List.forall_mem_nil _

theorem asks_of_single {request : Request} (asks : z.Asks request)
    (h : ∃ reply, es = [⟨request, reply⟩]) : ∀ e ∈ es, z.Asks e.request := by
  obtain ⟨reply, rfl⟩ := h
  exact List.forall_mem_singleton.2 asks

variable (t : Transport σ) (s : σ) (ds : Diagnostics)

theorem exchanges_of_append {begin : Diagnostics → Procedure (Outcome α)}
    (append : ∀ ds more, begin (ds ++ more) = (begin more).map (.after ds)) :
    (begin ds).exchanges t s = (begin []).exchanges t s := by
  have begun : begin ds = (begin []).map (.after ds) := by simpa using append ds []
  rw [begun, Procedure.exchanges_map]

theorem create_asked (z : Zone) : ∀ e ∈ (z.create ds).exchanges t s, z.Asks e.request := by
  rw [exchanges_of_append t s ds (create_append z)]
  exact asks_of_submits .create ((create_always z).run t s).1

theorem update_asked (z : Zone) : ∀ e ∈ (z.update ds).exchanges t s, z.Asks e.request := by
  rw [exchanges_of_append t s ds (update_append z)]
  exact asks_of_submits .update ((update_always z).run t s).1

theorem read_asked (z : Zone) : ∀ e ∈ (z.read ds).exchanges t s, z.Asks e.request := by
  rw [exchanges_of_append t s ds (read_append z)]
  exact asks_of_single .read ((read_always z).run t s).1

theorem exchanges_delete (z : Zone) :
    ∃ reply, (z.delete ds).exchanges t s = [⟨.delete (zonePath z.name), reply⟩] := by
  have begun : z.delete ds = (z.delete []).map (ds ++ ·) := by simpa using delete_append z ds []
  obtain ⟨reply, asked, _⟩ := (delete_always z).run t s
  rw [begun, Procedure.exchanges_map]
  exact ⟨reply, asked⟩

theorem delete_asked (z : Zone) : ∀ e ∈ (z.delete ds).exchanges t s, z.Asks e.request :=
  asks_of_single .delete (exchanges_delete t s ds z)

theorem plan_asked (z : Zone) : ∀ e ∈ (z.plan ds).exchanges t s, z.Asks e.request := by
  rw [exchanges_of_append t s ds (plan_append z)]
  obtain ⟨⟨_, looked⟩ | ⟨_, nothing⟩, _⟩ := (plan_always z).run t s
  · exact asks_of_single .read looked
  · rw [nothing]
    exact List.forall_mem_nil _

/-- What a replacement asks after its deletion, it asks for the new zone. -/
theorem recreate_asked (z : Zone) : ∀ e ∈ (z.recreate ds).exchanges t s, z.Asks e.request := by
  cases error : Diagnostics.hasError ds with
  | true =>
    rw [recreate_of_error error]
    exact List.forall_mem_nil _
  | false =>
    rw [recreate_of_noError error]
    exact create_asked t s ds z

end Zone

namespace Operation

theorem apply_asked (p : Plan) (t : Transport σ) (s : σ) (ds : Diagnostics) :
    ∀ e ∈ (p.apply ds).exchanges t s, (Operation.apply p).Asks e.request := by
  obtain ⟨action, desired, current, changes⟩ := p
  cases action with
  | create => exact fun e he => .subject (Zone.create_asked t s ds desired e he)
  | update => exact fun e he => .subject (Zone.update_asked t s ds desired e he)
  | nothing =>
    cases current with
    | none => exact fun e he => .subject (Zone.create_asked t s ds desired e he)
    | some current => exact List.forall_mem_nil _
  | replace reason =>
    cases current with
    | none => exact fun e he => .subject (Zone.create_asked t s ds desired e he)
    | some current =>
      have replaces : Plan.apply ⟨.replace reason, desired, some current, changes⟩ ds =
          (current.delete ds).bind desired.recreate := rfl
      rw [replaces, Procedure.exchanges_bind, List.forall_mem_append]
      refine ⟨fun e he => ?_, fun e he => .subject (Zone.recreate_asked t _ _ desired e he)⟩
      obtain ⟨reply, deleted⟩ := Zone.exchanges_delete t s ds current
      rw [deleted, List.mem_singleton] at he
      rw [he]
      exact .replaced rfl

/-- An operation asks on behalf of its subject, or for a replacement. -/
theorem exchanges_asked (op : Operation α) (t : Transport σ) (s : σ) (ds : Diagnostics) :
    ∀ e ∈ (op.perform ds).exchanges t s, op.Asks e.request := by
  cases op with
  | create z => exact fun e he => .subject (Zone.create_asked t s ds z e he)
  | read z => exact fun e he => .subject (Zone.read_asked t s ds z e he)
  | update z => exact fun e he => .subject (Zone.update_asked t s ds z e he)
  | delete z =>
    rw [perform, Procedure.exchanges_map]
    exact fun e he => .subject (Zone.delete_asked t s ds z e he)
  | plan z => exact fun e he => .subject (Zone.plan_asked t s ds z e he)
  | apply p => exact apply_asked p t s ds

end Operation

/-! ## Sessions -/

/-- An operation with the diagnostics that it is begun with. -/
structure Step where
  {α : Type}
  operation : Operation α
  diagnostics : Diagnostics

namespace Session

/-- The exchanges of a session, each with the step that it is part of. Nothing is assumed about
where the steps come from: a plan may have been made at any time before, or by hand. -/
def exchanges (t : Transport σ) : List Step → σ → List (Step × Exchange)
  | [], _ => []
  | step :: steps, s =>
    let procedure := step.operation.perform step.diagnostics
    (procedure.exchanges t s).map (step, ·) ++ exchanges t steps (procedure.run t s).2

/-- In a session each request is one that the operation of its step makes. -/
theorem asked (t : Transport σ) (steps : List Step) (s : σ) :
    ∀ e ∈ exchanges t steps s, e.1.operation.Asks e.2.request := by
  induction steps generalizing s with
  | nil => exact List.forall_mem_nil _
  | cons step steps ih =>
    intro e he
    rw [exchanges, List.mem_append] at he
    rcases he with he | he
    · obtain ⟨exchange, made, rfl⟩ := List.mem_map.1 he
      exact step.operation.exchanges_asked t s step.diagnostics exchange made
    · exact ih _ e he

end Session

end SdnZones
