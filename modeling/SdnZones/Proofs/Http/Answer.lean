-- SUMMARY: Which text the error of a failed call has, and where a better one is lost.
import SdnZones.Http.Client
import SdnZones.Proofs.Zone.Replies

/-!
# The text of a failed call

The error of a failed call is due the first text that is not blank among the message of the body,
the reason phrase and the standard one, with the refused parameters behind it
(`Answer.dueMessage`). It has that text unless a blank message hides the reason phrase
(`Answer.HidesReason`), and unless the status is of no class of failures, in which case the call
passes for one that went well (`Client.failure_told`).
-/

namespace SdnZones

/-! ## Standard reason phrases -/

theorem Status.filled_of_reason? {code : Nat} {phrase : String} (h : reason? code = some phrase) :
    Text.trimmed phrase = phrase ∧ phrase ≠ "" := by
  have filled : (reasons.map fun e => e.2.toList).all (fun cs =>
      cs.head?.any Text.isBlank == false && cs.getLast?.any Text.isBlank == false &&
        cs.isEmpty == false) = true := by decide +kernel
  obtain ⟨before, after, table, _⟩ := List.lookup_eq_some_iff.1 h
  have listed : phrase.toList ∈ reasons.map fun e => e.2.toList :=
    List.mem_map.2 ⟨(code, phrase), by rw [table]; simp, rfl⟩
  have held := List.all_eq_true.1 filled _ listed
  simp only [Bool.and_eq_true, beq_iff_eq] at held
  obtain ⟨⟨first, last⟩, ne⟩ := held
  refine ⟨Text.trimmed_eq_self first last, ?_⟩
  rintro rfl
  cases ne

namespace Answer

/-! ## The text that is due -/

/-- The first text that is not blank, without the white space around it. -/
def firstFilled (texts : List String) : String :=
  ((texts.map Text.trimmed).find? (· ≠ "")).getD ""

/-- The texts that a message may be taken from, the best one first. -/
def sources (status : Nat) (reason : Option String) (body : Json) : List String :=
  ((body.member? "message").bind Json.text?).toList ++ reason.toList ++
    (Status.reason? status).toList ++ ["Unknown error"]

/-- What is said of the refused parameters, if there are any: each name with the text of its fault,
or with its value if this is no text. -/
def refusals (body : Json) : String :=
  match body.member? "errors" with
  | some (.object (member :: members)) =>
    let said := (member :: members).map fun (name, fault) =>
      name ++ ": " ++ match fault with
        | .text s => Text.trimmed s
        | v => v.compact
    " (" ++ ", ".intercalate said ++ ")"
  | _ => ""

/-- The value of the text, or null if it cannot be read. -/
def body (a : Answer) : Json :=
  match bodyOf a.text with
  | .ok v => v
  | .error _ => .null

/-- The text that is due to the error of a failed call. -/
def dueMessage (a : Answer) : String :=
  firstFilled (sources a.status a.reason a.body) ++ refusals a.body

/-- The body has a blank message, and the reason phrase says more than the standard one. -/
def HidesReason (a : Answer) : Prop :=
  ∃ m reason, (a.body.member? "message").bind Json.text? = some m ∧ Text.trimmed m = "" ∧
    a.reason = some reason ∧ Text.trimmed reason ≠ "" ∧
    Text.trimmed reason ≠ standardMessage a.status

theorem firstFilled_cons (s : String) (texts : List String) :
    firstFilled (s :: texts) =
      if Text.trimmed s ≠ "" then Text.trimmed s else firstFilled texts := by
  rw [firstFilled, List.map_cons, List.find?_cons]
  by_cases blank : Text.trimmed s = "" <;> simp [blank, firstFilled]

theorem firstFilled_standard (status : Nat) :
    firstFilled ((Status.reason? status).toList ++ ["Unknown error"]) = standardMessage status := by
  rw [standardMessage]
  cases found : Status.reason? status with
  | none => decide
  | some phrase =>
    obtain ⟨trimmed, filled⟩ := Status.filled_of_reason? found
    rw [Option.toList_some, List.singleton_append, firstFilled_cons, trimmed, if_pos filled,
      Option.getD_some]

/-- The message is the one that is due unless a better one is hidden. -/
theorem mainMessage_eq_iff (a : Answer) :
    mainMessage a.status a.reason a.body = firstFilled (sources a.status a.reason a.body) ↔
      ¬ a.HidesReason := by
  have standard := firstFilled_standard a.status
  rw [mainMessage, givenMessage?, sources, HidesReason, List.append_assoc, List.append_assoc]
  cases message : (a.body.member? "message").bind Json.text? with
  | none =>
    cases given : a.reason with
    | none => simp [standard]
    | some reason =>
      by_cases empty : Text.trimmed reason = "" <;> simp [firstFilled_cons, standard, empty]
  | some m =>
    by_cases blank : Text.trimmed m = ""
    · cases given : a.reason with
      | none => simp [firstFilled_cons, standard, blank]
      | some reason =>
        by_cases empty : Text.trimmed reason = ""
        · simp [firstFilled_cons, standard, blank, empty]
        · simp [firstFilled_cons, blank, empty, eq_comm (a := standardMessage a.status)]
    · simp [firstFilled_cons, blank]

theorem detail_eq (name : String) (fault : Json) :
    detail name fault = name ++ ": " ++ match fault with
      | .text s => Text.trimmed s
      | v => v.compact := by
  cases fault <;> rfl

theorem errorMessage_eq (a : Answer) :
    errorMessage a.status a.reason a.body =
      mainMessage a.status a.reason a.body ++ refusals a.body := by
  rw [errorMessage, details, refusals]
  cases h : a.body.member? "errors" with
  | none => simp
  | some v =>
    cases v with
    | object members =>
      cases members with
      | nil => simp
      | cons member members => simp [detail_eq, Text.joinWith, String.append_assoc]
    | _ => simp

theorem failure_inj {status : Nat} {m n : String} :
    failure status m = failure status n ↔ m = n := by
  rw [failure, failure]
  split <;> simp

/-- What an answer with a status of failure comes to. -/
theorem reply_of_failed {a : Answer} (failed : 400 ≤ a.status) :
    a.reply = if a.status < 600 then
        .error (failure a.status (errorMessage a.status a.reason a.body))
      else .ok ⟨a.status, a.body⟩ := by
  have settled : a.reply = a.settle a.body := by
    have unsuccessful : Status.isSuccess a.status = false := by
      simp only [Status.isSuccess, Bool.and_eq_false_iff, decide_eq_false_iff_not]
      omega
    rw [reply, body]
    cases bodyOf a.text <;> simp [unsuccessful]
  have isFailure : Status.isFailure a.status = decide (a.status < 600) := by
    simp [Status.isFailure, failed]
  rw [settled, settle, isFailure]
  simp only [decide_eq_true_eq]

/-- The error has the text that is due, just if nothing hides it and the status is that of a
failure. -/
theorem reply_eq_due_iff {a : Answer} (failed : 400 ≤ a.status) :
    a.reply = .error (failure a.status a.dueMessage) ↔ a.status < 600 ∧ ¬ a.HidesReason := by
  rw [reply_of_failed failed]
  split
  · rename_i below
    rw [Except.error.injEq, failure_inj, errorMessage_eq, dueMessage, String.append_left_inj,
      mainMessage_eq_iff]
    simp [below]
  · rename_i above
    simp [above]

/-- What the reason phrase says of a missing zone is in the text that is due, if the body has no
message of its own. -/
theorem marked_dueMessage {a : Answer} {reason : String} (given : a.reason = some reason)
    (marked : "does not exist".toList <:+: reason.toList)
    (unspoken : ∀ m, (a.body.member? "message").bind Json.text? = some m → Text.trimmed m = "") :
    "does not exist".toList <:+: a.dueMessage.toList := by
  have kept := Text.infix_trimmed (by decide) (by decide) marked
  have filled : Text.trimmed reason ≠ "" := Text.ne_empty_of_infix (by decide) kept
  have first : firstFilled (sources a.status a.reason a.body) = Text.trimmed reason := by
    rw [sources, given, List.append_assoc, List.append_assoc]
    cases message : (a.body.member? "message").bind Json.text? with
    | none => simp [firstFilled_cons, filled]
    | some m => simp [firstFilled_cons, filled, unspoken m message]
  rw [dueMessage, first, String.toList_append]
  exact kept.trans (List.prefix_append _ _).isInfix

end Answer

/-! ## Calls about zones -/

namespace Zones

variable {σ : Type} {t : Transport σ} {s : σ} {name : String} {e : ApiError}

theorem get_of_missing (called : (t.call (.get (zonePath name)) s).1 = .error e)
    (missing : e.meansMissing = true) :
    ∃ e', ((get name).run t s).1 = .error e' ∧ e'.isNotFound = true := by
  rw [get, Procedure.run]
  simp only [called]
  exact ⟨_, rfl, (ZonesError.isNotFound_classify _ name e).trans missing⟩

theorem delete_of_missing (called : (t.call (.delete (zonePath name)) s).1 = .error e)
    (missing : e.meansMissing = true) :
    ∃ e', ((delete name).run t s).1 = .error e' ∧ e'.isNotFound = true := by
  rw [delete, Procedure.run]
  simp only [called]
  exact ⟨_, rfl, (ZonesError.isNotFound_classify _ name e).trans missing⟩

end Zones

namespace Client

variable {σ : Type} {network : Network σ} {c : Client} {r : Request} {m : Message} {a : Answer}
  {s : σ}

theorem call_of_answer (sent : c.message r = .ok m) (answered : (network m s).1 = .ok a) :
    (c.call network r s).1 = a.reply := by
  simp only [call, sent, answered]

/-- A call that is answered with a status of 400 or above fails with the text that is due, just if
the status is below 600 and nothing hides the reason phrase. Where this is so, a reason phrase
that tells that a zone is missing is understood unless the body has a message of its own. -/
theorem failure_told (sent : c.message r = .ok m) (answered : (network m s).1 = .ok a)
    (failed : 400 ≤ a.status) :
    ((c.call network r s).1 = .error (Answer.failure a.status a.dueMessage) ↔
      a.status < 600 ∧ ¬ a.HidesReason) ∧
    ∀ reason, a.reason = some reason → "does not exist".toList <:+: reason.toList →
      (∀ m, (a.body.member? "message").bind Json.text? = some m → Text.trimmed m = "") →
      a.status ≠ 401 → a.status < 600 → ¬ a.HidesReason → ∀ name,
        (r = .get (zonePath name) →
          ∃ e, ((Zones.get name).run (c.transport network) s).1 = .error e ∧
            e.isNotFound = true) ∧
        (r = .delete (zonePath name) →
          ∃ e, ((Zones.delete name).run (c.transport network) s).1 = .error e ∧
            e.isNotFound = true) := by
  have told := Answer.reply_eq_due_iff failed
  rw [← call_of_answer sent answered] at told
  refine ⟨told, fun reason given marked unspoken other below open' name => ?_⟩
  have called := told.2 ⟨below, open'⟩
  have status : Answer.failure a.status a.dueMessage = .status a.status a.dueMessage := if_neg other
  rw [status] at called
  have missing : (ApiError.status a.status a.dueMessage).meansMissing = true :=
    Reply.tellsAbsence_error_iff.1
      ⟨_, _, rfl, .inr (Answer.marked_dueMessage given marked unspoken)⟩
  constructor
  · rintro rfl
    exact Zones.get_of_missing called missing
  · rintro rfl
    exact Zones.delete_of_missing called missing

/-- A missing zone is recognised by the reason phrase alone. -/
theorem missing_zone_told :
    let a : Answer := { status := 500, reason := some " sdn 'zone1' does not exist" }
    let network : Network Unit := fun _ s => (.ok a, s)
    let c : Client := { base := "http://pve:8006/api2/json" }
    (c.call network (.get (zonePath "zone1")) ()).1 =
        .error (.status 500 "sdn 'zone1' does not exist") ∧
      ∃ e, ((Zones.get "zone1").run (c.transport network) ()).1 = .error e ∧
        e.isNotFound = true := by
  intro a network c
  have sends : (c.message (.get (zonePath "zone1"))).toOption.isSome = true := by decide +kernel
  obtain ⟨m, sent⟩ : ∃ m, c.message (.get (zonePath "zone1")) = .ok m := by
    cases sent : c.message (.get (zonePath "zone1")) with
    | ok m => exact ⟨m, rfl⟩
    | error e =>
      rw [sent] at sends
      cases sends
  have silent : (a.body.member? "message").bind Json.text? = none := by decide
  have unhidden : ¬ a.HidesReason := by
    rintro ⟨m, _, spoken, _⟩
    cases silent.symm.trans spoken
  have answered : (network m ()).1 = .ok a := rfl
  obtain ⟨told, missing⟩ := failure_told sent answered (by decide)
  refine ⟨(told.2 ⟨by decide, unhidden⟩).trans (by decide), ?_⟩
  refine (missing _ rfl ?_ ?_ (by decide) (by decide) unhidden "zone1").1 rfl
  · exact ⟨" sdn 'zone1' ".toList, [], by decide⟩
  · exact fun _ spoken => by cases silent.symm.trans spoken

/-- A blank message hides what the reason phrase says of the missing zone, and the status 600 passes
for one of success. -/
theorem reason_hidden :
    let a : Answer := {
      status := 500
      reason := some "sdn 'zone1' does not exist"
      text := "\x7b\"message\":\" \"\x7d" }
    let network : Network Unit := fun _ s => (.ok a, s)
    let c : Client := { base := "http://pve:8006/api2/json" }
    a.HidesReason ∧ a.dueMessage = "sdn 'zone1' does not exist" ∧
      ((Zones.get "zone1").run (c.transport network) ()).1 =
        .error (.transport "reading SDN zone" (.status 500 "Internal Server Error")) ∧
      ({ a with status := 600 } : Answer).reply = .ok ⟨600, a.body⟩ := by
  intro a network c
  refine ⟨⟨" ", "sdn 'zone1' does not exist", ?_⟩, ?_, ?_, ?_⟩
  · decide +kernel
  · decide +kernel
  · decide +kernel
  · decide +kernel

end Client

end SdnZones
