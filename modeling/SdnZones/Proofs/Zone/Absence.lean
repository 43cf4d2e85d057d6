-- SUMMARY: Absence is concluded only from the reply about a missing zone, where one is looked for.
import SdnZones.Proofs.Zone.Classification

/-!
# Absence

Reading, deleting and planning take one kind of failure for the absence of the zone
(`Reply.TellsAbsence`) and report every other one (`Zone.ReadAs`, `Zone.DeletedAs`,
`Zone.PlannedAs`). Writing, reading back and listing report that one as well
(`Exchange.Fails`). All of it is in `Zone.absence_concluded`.
-/

namespace SdnZones

variable {σ : Type}

/-! ## What is made of a reply -/

/-- What reading makes of a reply. Nothing but absence clears a zone. -/
structure Zone.ReadAs (z : Zone) (ds : Diagnostics) (reply : Reply) (o : Outcome Zone) : Prop where
  cleared_iff : (∃ found, o.result = some found ∧ found.block = none) ↔ reply.TellsAbsence
  absent : reply.TellsAbsence →
    ∃ d, d.isWarning = true ∧ o = .success { name := z.name } (ds ++ [d])
  unusable : reply.Unusable → o.Fails ds

/-- What deleting makes of a reply. No other failure than absence is excused. -/
structure Zone.DeletedAs (ds : Diagnostics) (reply : Reply) (said : Diagnostics) : Prop where
  excused_iff : (∃ e, reply = .error e) ∧
    (∃ added, said = ds ++ added ∧ Diagnostics.hasError added = false) ↔ reply.TellsAbsence
  absent : reply.TellsAbsence → ∃ d, d.isWarning = true ∧ said = ds ++ [d]
  failed : ∀ e, reply = .error e → ¬ reply.TellsAbsence → ∃ d, d.isError = true ∧ said = ds ++ [d]

/-- What planning makes of a reply. -/
structure Zone.PlannedAs (ds : Diagnostics) (reply : Reply) (o : Outcome Plan) : Prop where
  create_iff : ∀ p, o.result = some p → (p.action = .create ↔ reply.TellsAbsence)
  unusable : reply.Unusable → o.Fails ds

/-- A write that is refused, or a read that gives no zone. -/
def Exchange.Fails (e : Exchange) : Prop :=
  (∃ cause, e.reply = .error cause) ∨
    (e.request.method = .get ∧ ∀ r z, ¬ e.reply.Holds r z)

namespace Zone

/-! ## Reading -/

theorem read_readAs (z : Zone) (ds : Diagnostics) :
    (z.read ds).Always fun es o =>
      ∃ reply, es = [⟨.get (zonePath z.name), reply⟩] ∧ z.ReadAs ds reply o := by
  refine (read_yields z ds).mono fun es o ⟨reply, asked, yields⟩ => ⟨reply, asked, ?_⟩
  cases yields with
  | absent told h =>
    refine ⟨⟨fun _ => told, fun _ => ?_⟩, fun _ => h, fun unusable => ?_⟩
    · obtain ⟨d, _, rfl⟩ := h
      exact ⟨_, rfl, rfl⟩
    · exact absurd told unusable.not_tellsAbsence
  | @held r found _ holds h =>
    subst h
    refine ⟨⟨fun cleared => ?_, fun told => ?_⟩, fun told => ?_, fun unusable => ?_⟩
    · obtain ⟨_, same, bare⟩ := cleared
      cases same
      exact absurd bare holds.block_ne_none
    · exact absurd told holds.not_tellsAbsence
    · exact absurd told holds.not_tellsAbsence
    · exact absurd holds unusable.not_holds
  | unusable unusable fails =>
    have untold := unusable.not_tellsAbsence
    refine ⟨⟨fun cleared => ?_, fun told => absurd told untold⟩,
      fun told => absurd told untold, fun _ => fails⟩
    obtain ⟨_, found, _⟩ := cleared
    obtain ⟨d, _, rfl⟩ := fails
    cases found

/-! ## Deleting -/

theorem delete_deletedAs (z : Zone) (ds : Diagnostics) :
    (z.delete ds).Always fun es said =>
      ∃ reply, es = [⟨.delete (zonePath z.name), reply⟩] ∧ DeletedAs ds reply said := by
  refine .call fun reply => ?_
  cases reply with
  | ok response =>
    have untold : ¬ Reply.TellsAbsence (.ok response) := Reply.not_tellsAbsence_ok
    refine .done ⟨_, rfl, ⟨fun excused => ?_, fun told => absurd told untold⟩,
      fun told => absurd told untold, fun e refused => by cases refused⟩
    obtain ⟨⟨e, refused⟩, _⟩ := excused
    cases refused
  | error e =>
    have notFound : (ZonesError.classify "deleting SDN zone" z.name e).isNotFound = true ↔
        Reply.TellsAbsence (.error e) := by
      rw [ZonesError.isNotFound_classify, Reply.tellsAbsence_error_iff]
    show Procedure.Always (ite _ (.done _) (.done _)) _
    by_cases told : Reply.TellsAbsence (.error e)
    · rw [if_pos (notFound.2 told)]
      refine .done ⟨_, rfl, ⟨fun _ => told, fun _ => ⟨⟨e, rfl⟩, _, rfl, rfl⟩⟩,
        fun _ => ⟨_, rfl, rfl⟩, fun _ _ untold => absurd told untold⟩
    · rw [if_neg (mt notFound.1 told)]
      refine .done ⟨_, rfl, ⟨fun excused => ?_, fun absent => absurd absent told⟩,
        fun absent => absurd absent told, fun _ _ _ => ⟨_, rfl, rfl⟩⟩
      obtain ⟨_, added, said, noError⟩ := excused
      rw [← List.append_cancel_left said] at noError
      cases noError

/-! ## Planning -/

theorem plan_plannedAs (z : Zone) (ds : Diagnostics) :
    (z.plan ds).Always fun es o =>
      if Diagnostics.hasError z.withDefaults.validate then es = [] ∧ o.result = none
      else ∃ reply, es = [⟨.get (zonePath z.name), reply⟩] ∧ PlannedAs ds reply o := by
  cases valid : Diagnostics.hasError z.withDefaults.validate with
  | true =>
    rw [plan_of_invalid valid]
    exact .done ⟨rfl, rfl⟩
  | false =>
    refine (plan_yields valid ds).mono fun es o ⟨reply, asked, yields⟩ => ⟨reply, asked, ?_⟩
    cases yields with
    | absent told h =>
      refine ⟨fun p planned => ⟨fun _ => told, fun _ => ?_⟩, fun unusable => ?_⟩
      · rw [h] at planned
        obtain ⟨rfl, _⟩ := checked_eq_some_iff.1 planned
        rfl
      · exact absurd told unusable.not_tellsAbsence
    | @held r current _ holds h =>
      refine ⟨fun p planned => ⟨fun create => ?_, fun told => ?_⟩, fun unusable => ?_⟩
      · rw [h] at planned
        obtain ⟨rfl, _⟩ := checked_eq_some_iff.1 planned
        exact absurd create action_toChange_ne_create
      · exact absurd told holds.not_tellsAbsence
      · exact absurd holds unusable.not_holds
    | unusable unusable fails =>
      refine ⟨fun p planned => ?_, fun _ => fails⟩
      obtain ⟨d, _, rfl⟩ := fails
      cases planned

/-! ## Writing -/

theorem readBack_fails (name : String) (ds : Diagnostics) :
    (readBack name ds).Always fun es o => ∀ e ∈ es, e.Fails → o.Fails ds := by
  refine (readBack_yields name ds).mono fun es o ⟨reply, asked, yields⟩ => ?_
  subst asked
  rw [List.forall_mem_singleton]
  intro failed
  cases yields with
  | absent _ fails => exact fails
  | unusable _ fails => exact fails
  | held holds h =>
    obtain ⟨cause, refused⟩ | ⟨_, unheld⟩ := failed
    · obtain ⟨_, ok, _⟩ := holds
      cases refused.symm.trans ok
    · exact absurd holds (unheld _ _)

theorem submit_fails {write : Procedure (Except ZonesError Unit)}
    {complaint : ZonesError → Diagnostic} {request : Request} (writes : Zones.Writes write request)
    (changes : request.method ≠ .get) (isError : ∀ e, (complaint e).isError = true) (z : Zone)
    (ds : Diagnostics) :
    (z.submit write complaint ds).Always fun es o => ∀ e ∈ es, e.Fails → o.Fails ds := by
  by_cases accepted : z.Accepted
  · rw [submit_of_accepted write complaint accepted]
    refine .bind (writes.mono fun es done ⟨reply, asked, same⟩ => ?_)
    subst asked
    cases done with
    | error e => exact .done fun _ _ _ => ⟨_, isError e, rfl⟩
    | ok u =>
      refine (readBack_fails z.name ds).mono fun more o fails => ?_
      rw [List.singleton_append, List.forall_mem_cons]
      refine ⟨fun failed => ?_, fails⟩
      obtain ⟨cause, refused⟩ | ⟨read, _⟩ := failed
      · rw [show reply = .error cause from refused] at same
        cases same
      · exact absurd read changes
  · obtain ⟨errors, _, refused⟩ := submit_of_not_accepted write complaint accepted
    rw [refused]
    exact .done (List.forall_mem_nil _)

theorem create_fails (z : Zone) (ds : Diagnostics) :
    (z.create ds).Always fun es o => ∀ e ∈ es, e.Fails → o.Fails ds := by
  rw [create_eq_submit]
  exact submit_fails (Zones.writes_create _) Method.noConfusion (fun _ => rfl) z ds

theorem update_fails (z : Zone) (ds : Diagnostics) :
    (z.update ds).Always fun es o => ∀ e ∈ es, e.Fails → o.Fails ds := by
  rw [update_eq_submit]
  exact submit_fails (Zones.writes_update _ _) Method.noConfusion (fun _ => rfl) z ds

/-! ## Listing -/

/-- Listing hands on every failure as one of transport. -/
theorem list_fails (kind : Option ZoneKind) :
    (Zones.list kind).Always fun es listed => ∃ reply, es = [⟨Zones.listRequest kind, reply⟩] ∧
      (∀ cause, reply = .error cause →
        listed = .error (.transport "listing SDN zones" cause)) ∧
      ∀ e, listed = .error e → e.isNotFound = false := by
  refine .call fun reply => .done ⟨reply, rfl, ?_⟩
  cases reply with
  | error cause =>
    refine ⟨fun _ same => by cases same; rfl, fun e same => ?_⟩
    cases same
    rfl
  | ok response =>
    refine ⟨fun _ refused => (by cases refused), fun e listed => ?_⟩
    simp only [Zones.listed] at listed
    split at listed <;> cases listed <;> rfl

/-! ## All of it -/

/-- A zone is taken for missing exactly if the reply to the one request of a reading, deletion or
plan tells so, and then that is worth a warning only. A plan makes this request unless the zone
breaks a rule, and then there is none. Every other reply that holds no zone is an
error that leaves no result, and so is each failure of a creation, of an update and of the reading
back, as well as of a listing, whatever it tells. -/
theorem absence_concluded (t : Transport σ) (s : σ) (z : Zone) (ds : Diagnostics)
    (kind : Option ZoneKind) :
    (∀ reply : Reply, reply.Unusable ↔ ¬ reply.TellsAbsence ∧ ∀ r z, ¬ reply.Holds r z) ∧
    (∀ response : Response, (∀ items, response.body ≠ .array items) →
      response.body.member? "data" = none ∨ response.body.member? "data" = some .null →
      Reply.Unusable (.ok response)) ∧
    (∃ reply, (z.read ds).exchanges t s = [⟨.get (zonePath z.name), reply⟩] ∧
      z.ReadAs ds reply ((z.read ds).run t s).1) ∧
    (∃ reply, (z.delete ds).exchanges t s = [⟨.delete (zonePath z.name), reply⟩] ∧
      DeletedAs ds reply ((z.delete ds).run t s).1) ∧
    (if Diagnostics.hasError z.withDefaults.validate then
        (z.plan ds).exchanges t s = [] ∧ ((z.plan ds).run t s).1.result = none
      else ∃ reply, (z.plan ds).exchanges t s = [⟨.get (zonePath z.name), reply⟩] ∧
        PlannedAs ds reply ((z.plan ds).run t s).1) ∧
    (∀ e ∈ (z.create ds).exchanges t s, e.Fails → ((z.create ds).run t s).1.Fails ds) ∧
    (∀ e ∈ (z.update ds).exchanges t s, e.Fails → ((z.update ds).run t s).1.Fails ds) ∧
    ∃ reply, (Zones.list kind).exchanges t s = [⟨Zones.listRequest kind, reply⟩] ∧
      (∀ cause, reply = .error cause →
        ((Zones.list kind).run t s).1 = .error (.transport "listing SDN zones" cause)) ∧
      ∀ e, ((Zones.list kind).run t s).1 = .error e → e.isNotFound = false :=
  ⟨fun _ => Reply.unusable_iff, fun _ => Reply.unusable_of_no_data, (read_readAs z ds).run t s,
    (delete_deletedAs z ds).run t s, (plan_plannedAs z ds).run t s,
    (create_fails z ds).run t s, (update_fails z ds).run t s, (list_fails kind).run t s⟩

/-- One text in two errors: a server that answers with it has no such zone, and one that does not
let the caller in says nothing about the zone. -/
theorem absence_told_by_status_only :
    let told : ApiError := .status 500 "sdn 'zone1' does not exist"
    let untold : ApiError := .authentication "sdn 'zone1' does not exist"
    let z : Zone := { name := "zone1", mtu := some 1450, block := some (.simple {}) }
    let read (e : ApiError) : Outcome Zone := ((z.read []).run (.constant (.error e)) ()).1
    let deleted (e : ApiError) : Diagnostics := ((z.delete []).run (.constant (.error e)) ()).1
    let planned (e : ApiError) : Outcome Plan := ((z.plan []).run (.constant (.error e)) ()).1
    (∃ d, d.isWarning = true ∧ read told = .success { name := "zone1" } [d]) ∧
      (∃ d, d.isWarning = true ∧ deleted told = [d]) ∧
      (∃ p, (planned told).result = some p ∧ p.action = .create) ∧
      (∃ d, d.isError = true ∧ read untold = ⟨none, [d]⟩) ∧
      (∃ d, d.isError = true ∧ deleted untold = [d]) ∧
      ∃ d, d.isError = true ∧ planned untold = ⟨none, [d]⟩ := by
  intro told untold z read deleted planned
  have replied : ∀ {α : Type} {e : ApiError} {p : Procedure α} {request : Request} {reply : Reply},
      p.exchanges (.constant (.error e)) () = [⟨request, reply⟩] → reply = .error e := fun asked =>
    Procedure.reply_of_mem_exchanges (asked ▸ List.mem_singleton_self _)
  have concluded : ∀ e : ApiError, z.ReadAs [] (.error e) (read e) ∧
      DeletedAs [] (.error e) (deleted e) ∧ PlannedAs [] (.error e) (planned e) := by
    intro e
    obtain ⟨_, _, ⟨_, asked, readAs⟩, ⟨_, askedToo, deletedAs⟩, plan, _⟩ :=
      absence_concluded (.constant (.error e)) () z [] none
    rw [if_neg (by decide)] at plan
    obtain ⟨_, looked, plannedAs⟩ := plan
    obtain rfl := replied asked
    obtain rfl := replied askedToo
    obtain rfl := replied looked
    exact ⟨readAs, deletedAs, plannedAs⟩
  have tells : Reply.TellsAbsence (.error told) := ⟨_, _, rfl, .inr (by decide)⟩
  have unusable : Reply.Unusable (.error untold) := .authentication _
  have creation : (planned told).result = some (.toCreate z.withDefaults) := by decide
  obtain ⟨cleared, excused, created⟩ := concluded told
  obtain ⟨unread, undeleted, unplanned⟩ := concluded untold
  exact ⟨cleared.absent tells, excused.absent tells,
    ⟨_, creation, (created.create_iff _ creation).2 tells⟩, unread.unusable unusable,
    undeleted.failed _ rfl unusable.not_tellsAbsence, unplanned.unusable unusable⟩

end Zone

end SdnZones
