-- SUMMARY: What a reply to a request for one zone says: it is not there, it holds it, or neither.
import SdnZones.Proofs.Text.Occurrence
import SdnZones.Proofs.Zone.Projection
import SdnZones.Proofs.Zone.Requests

/-!
# Replies about one zone

A reply can tell that the zone is missing (`Reply.TellsAbsence`), hold a zone (`Reply.Holds`), or
be of no use (`Reply.Unusable`), and every reply does exactly one of these
(`Reply.unusable_iff`). What getting a zone comes to depends on nothing else
(`Zones.get_got`).
-/

namespace SdnZones

namespace Reply

/-- The error of a missing zone: its status says so, or its message. -/
def TellsAbsence (reply : Reply) : Prop :=
  ∃ code m, reply = .error (.status code m) ∧
    (code = 404 ∨ "does not exist".toList <:+: m.toList)

/-- A response with a record from which a zone is read. -/
def Holds (reply : Reply) (r : Record) (z : Zone) : Prop :=
  ∃ response, reply = .ok response ∧ Record.ofGetAnswer response.body = .ok (some r) ∧
    Zone.ofRecord? r = .ok z

/-- A reply that neither holds a zone nor tells that it is missing. -/
inductive Unusable : Reply → Prop where
  | http (failures : List String) : Unusable (.error (.http failures))
  | invalidUrl (url : String) : Unusable (.error (.invalidUrl url))
  | authentication (m : String) : Unusable (.error (.authentication m))
  | parse (problem : ParseProblem) : Unusable (.error (.parse problem))
  | status {code : Nat} {m : String} (other : code ≠ 404)
    (unmarked : ¬ "does not exist".toList <:+: m.toList) : Unusable (.error (.status code m))
  | noData {response : Response} (empty : Record.ofGetAnswer response.body = .ok none) :
    Unusable (.ok response)
  | undecodable {response : Response} {fault : DecodeFault}
    (faulty : Record.ofGetAnswer response.body = .error fault) : Unusable (.ok response)
  | unrecognised {response : Response} {r : Record}
    (found : Record.ofGetAnswer response.body = .ok (some r))
    (unknown : ∀ k ∈ ZoneKind.configurable, r.kind ≠ some k.name) : Unusable (.ok response)

variable {reply : Reply} {response : Response} {r : Record} {z : Zone}

theorem tellsAbsence_error_iff {e : ApiError} :
    TellsAbsence (.error e) ↔ e.meansMissing = true := by
  cases e with
  | status code m =>
    simp only [TellsAbsence, Except.error.injEq, ApiError.status.injEq, ApiError.meansMissing,
      Bool.or_eq_true, beq_iff_eq, Text.containsText_iff, missingMarker]
    constructor
    · rintro ⟨_, _, ⟨rfl, rfl⟩, told⟩
      exact told
    · exact fun told => ⟨code, m, ⟨rfl, rfl⟩, told⟩
  | _ => simp [TellsAbsence, ApiError.meansMissing]

theorem not_tellsAbsence_ok : ¬ TellsAbsence (.ok response) := by
  rintro ⟨_, _, h, _⟩
  cases h

/-- A failure that is not that of a missing zone is of no use. -/
theorem Unusable.of_error {e : ApiError} (other : ¬ TellsAbsence (.error e)) :
    Unusable (.error e) := by
  cases e with
  | http failures => exact .http failures
  | invalidUrl url => exact .invalidUrl url
  | authentication m => exact .authentication m
  | parse problem => exact .parse problem
  | status code m =>
    refine .status (fun missing => other ?_) (fun marked => other ?_)
    · exact ⟨code, m, rfl, .inl missing⟩
    · exact ⟨code, m, rfl, .inr marked⟩

/-- A reply is of no use exactly if it neither tells that the zone is missing nor holds one. -/
theorem unusable_iff :
    reply.Unusable ↔ ¬ reply.TellsAbsence ∧ ∀ r z, ¬ reply.Holds r z := by
  constructor
  · intro unusable
    constructor
    · rintro ⟨code, m, rfl, told⟩
      cases unusable with
      | status other unmarked => exact told.elim other unmarked
    · rintro r z ⟨response, rfl, found, read⟩
      cases unusable with
      | noData empty => cases empty.symm.trans found
      | undecodable faulty => cases faulty.symm.trans found
      | unrecognised found' unknown =>
        cases found'.symm.trans found
        have unread : Zone.ofRecord? r = .error (.unknownKind (r.kind.getD "")) :=
          Zone.ofRecord?_eq_error_iff.2 ⟨unknown, rfl⟩
        cases unread.symm.trans read
  · rintro ⟨untold, unheld⟩
    cases reply with
    | error e => exact .of_error untold
    | ok response =>
      cases found : Record.ofGetAnswer response.body with
      | error fault => exact .undecodable found
      | ok r? =>
        cases r? with
        | none => exact .noData found
        | some r =>
          cases read : Zone.ofRecord? r with
          | error problem => exact .unrecognised found (Zone.ofRecord?_eq_error_iff.1 read).1
          | ok z => exact absurd ⟨response, rfl, found, read⟩ (unheld r z)

theorem Unusable.not_tellsAbsence (h : reply.Unusable) : ¬ reply.TellsAbsence :=
  (unusable_iff.1 h).1

theorem Unusable.not_holds (h : reply.Unusable) : ¬ reply.Holds r z := (unusable_iff.1 h).2 r z

namespace Holds

theorem not_tellsAbsence (h : reply.Holds r z) : ¬ reply.TellsAbsence := by
  obtain ⟨_, rfl, _⟩ := h
  exact not_tellsAbsence_ok

theorem readFrom (h : reply.Holds r z) : Zone.ReadFrom r z := by
  obtain ⟨_, _, _, read⟩ := h
  exact Zone.readFrom_of_ok read

theorem block_ne_none (h : reply.Holds r z) : z.block ≠ none := by
  obtain ⟨_, b, _, _, hb⟩ := h.readFrom.block
  rw [hb]
  exact Option.some_ne_none b

end Holds

end Reply

/-! ## Answers without data -/

section

variable {α : Type} {title : String} {decode : Json → Except DecodeFault α}
  {members : List (String × Json)}

/-- Once the data is there the rest of the members does not change it. -/
theorem visit_data_of_seen (x : Option α) (members : List (String × Json)) :
    (dataLayout title decode).visit none ["data"] x members = .ok x ∨
      ∃ fault, (dataLayout title decode).visit none ["data"] x members = .error fault := by
  induction members with
  | nil => exact .inl rfl
  | cons member members ih =>
    obtain ⟨name, v⟩ := member
    by_cases data : name = "data"
    · subst data
      exact .inr ⟨_, rfl⟩
    · rw [visit_data_cons_of_ne data]
      exact ih

/-- An object whose data is missing or null has none. -/
theorem ofJson_data_of_none (absent : members.lookup "data" = none ∨
      members.lookup "data" = some .null) :
    (dataLayout title decode).ofJson none (.object members) = .ok none ∨
      ∃ fault, (dataLayout title decode).ofJson none (.object members) = .error fault := by
  show (dataLayout title decode).visit none [] none members = .ok none ∨
    ∃ fault, (dataLayout title decode).visit none [] none members = .error fault
  induction members with
  | nil => exact .inl rfl
  | cons member members ih =>
    obtain ⟨name, v⟩ := member
    by_cases data : name = "data"
    · subst data
      rw [List.lookup_cons, beq_self_eq_true] at absent
      obtain rfl : v = .null := by simpa using absent
      exact visit_data_of_seen none members
    · rw [visit_data_cons_of_ne data]
      refine ih ?_
      rwa [List.lookup_cons, beq_eq_false_iff_ne.2 (Ne.symm data)] at absent

end

/-- A response is of no use if its data is missing or null, or if it is no object at all. -/
theorem Reply.unusable_of_no_data {response : Response}
    (bare : ∀ items, response.body ≠ .array items)
    (absent : response.body.member? "data" = none ∨ response.body.member? "data" = some .null) :
    Reply.Unusable (.ok response) := by
  cases body : response.body with
  | object members =>
    rw [body] at absent
    have read : Record.ofGetAnswer (.object members) = .ok none ∨
        ∃ fault, Record.ofGetAnswer (.object members) = .error fault := ofJson_data_of_none absent
    rw [← body] at read
    obtain empty | ⟨fault, faulty⟩ := read
    · exact .noData empty
    · exact .undecodable faulty
  | array items => exact absurd body (bare items)
  | _ => exact .undecodable (by rw [body]; rfl)

/-! ## Getting a zone -/

namespace Zones

/-- What getting a zone comes to by the reply. -/
inductive Got : Reply → Except ZonesError Record → Prop where
  | absent {reply : Reply} {e : ZonesError} (told : reply.TellsAbsence)
    (notFound : e.isNotFound = true) : Got reply (.error e)
  | failed {reply : Reply} {e : ZonesError} (unusable : reply.Unusable)
    (other : e.isNotFound = false) : Got reply (.error e)
  | found {response : Response} {r : Record}
    (held : Record.ofGetAnswer response.body = .ok (some r)) : Got (.ok response) (.ok r)

theorem get_got (name : String) :
    (get name).Always fun es got => ∃ reply, es = [⟨.get (zonePath name), reply⟩] ∧
      Got reply got := by
  refine .call fun reply => .done ⟨reply, rfl, ?_⟩
  cases reply with
  | error e =>
    have kind := ZonesError.isNotFound_classify "reading SDN zone" name e
    by_cases told : Reply.TellsAbsence (.error e)
    · exact .absent told (kind.trans (Reply.tellsAbsence_error_iff.1 told))
    · have other := mt Reply.tellsAbsence_error_iff.2 told
      exact .failed (.of_error told) (kind.trans (Bool.not_eq_true _ ▸ other))
  | ok response =>
    simp only [gotten]
    cases found : Record.ofGetAnswer response.body with
    | error fault => exact .failed (.undecodable found) rfl
    | ok r? =>
      cases r? with
      | none => exact .failed (.noData found) rfl
      | some r => exact .found found

end Zones

/-! ## Going on with the zone -/

/-- What is begun with diagnostics comes to nothing, for one more error. -/
def Outcome.Fails {α : Type} (ds : Diagnostics) (o : Outcome α) : Prop :=
  ∃ d : Diagnostic, d.isError = true ∧ o = ⟨none, ds ++ [d]⟩

/-- What comes of asking for one zone: one thing if it is missing, another if the reply holds it,
and else a failure. -/
inductive Reply.Yields {α : Type} (ds : Diagnostics) (absent : Outcome α → Prop)
    (held : Record → Zone → Outcome α → Prop) (reply : Reply) : Outcome α → Prop where
  | absent {o : Outcome α} (told : reply.TellsAbsence) (h : absent o) :
    Yields ds absent held reply o
  | held {r : Record} {z : Zone} {o : Outcome α} (holds : reply.Holds r z) (h : held r z o) :
    Yields ds absent held reply o
  | unusable {o : Outcome α} (unusable : reply.Unusable) (fails : o.Fails ds) :
    Yields ds absent held reply o

/-- How a procedure goes on after getting a zone: it ends, and it fails if there is no zone and
nothing tells that it is missing. -/
structure Zone.GoesOn {α : Type} (ds : Diagnostics) (absent : Outcome α → Prop)
    (held : Record → Zone → Outcome α → Prop)
    (next : Except ZonesError Record → Procedure (Outcome α)) : Prop where
  absent : ∀ e, e.isNotFound = true → ∃ o, next (.error e) = .done o ∧ absent o
  failed : ∀ e, e.isNotFound = false → ∃ o, next (.error e) = .done o ∧ o.Fails ds
  held : ∀ r z, Zone.ofRecord? r = .ok z → ∃ o, next (.ok r) = .done o ∧ held r z o
  unrecognised : ∀ r problem, Zone.ofRecord? r = .error problem →
    ∃ o, next (.ok r) = .done o ∧ o.Fails ds

namespace Zone

theorem GoesOn.always {α : Type} {ds : Diagnostics} {absent : Outcome α → Prop}
    {held : Record → Zone → Outcome α → Prop}
    {next : Except ZonesError Record → Procedure (Outcome α)}
    (goesOn : GoesOn ds absent held next) (name : String) :
    ((Zones.get name).bind next).Always fun es o =>
      ∃ reply, es = [⟨.get (zonePath name), reply⟩] ∧ reply.Yields ds absent held o := by
  refine .bind ((Zones.get_got name).mono fun es got ⟨reply, asked, h⟩ => ?_)
  subst asked
  cases h with
  | absent told notFound =>
    obtain ⟨o, done, h⟩ := goesOn.absent _ notFound
    rw [done]
    exact .done ⟨reply, rfl, .absent told h⟩
  | failed unusable other =>
    obtain ⟨o, done, fails⟩ := goesOn.failed _ other
    rw [done]
    exact .done ⟨reply, rfl, .unusable unusable fails⟩
  | @found response r found =>
    cases read : ofRecord? r with
    | ok z =>
      obtain ⟨o, done, h⟩ := goesOn.held r z read
      rw [done]
      exact .done ⟨_, rfl, .held ⟨response, rfl, found, read⟩ h⟩
    | error problem =>
      obtain ⟨o, done, fails⟩ := goesOn.unrecognised r problem read
      rw [done]
      have unknown := (ofRecord?_eq_error_iff.1 read).1
      exact .done ⟨_, rfl, .unusable (.unrecognised found unknown) fails⟩

/-- A zone of an unknown kind fails to be read, without a warning. -/
theorem fails_converted {r : Record} {problem : Problem} (unread : ofRecord? r = .error problem)
    (ds : Diagnostics) : (converted r ds).Fails ds := by
  have quiet : r.strayCommas = [] := by
    rw [ofRecord?] at unread
    unfold Record.strayCommas
    cases described : r.described with
    | error _ => rfl
    | ok _ =>
      rw [described] at unread
      cases unread
  refine ⟨.error "Error Reading SDN Zone" problem.message, rfl, ?_⟩
  rw [converted, unread, quiet, List.append_nil]
  rfl

/-- Reading takes a missing zone for one of which only the name is left. -/
theorem read_yields (z : Zone) (ds : Diagnostics) :
    (z.read ds).Always fun es o => ∃ reply, es = [⟨.get (zonePath z.name), reply⟩] ∧
      reply.Yields ds
        (fun o => ∃ d, d.isWarning = true ∧ o = .success (named z.name) (ds ++ [d]))
        (fun r found o => o = .success found (ds ++ r.strayCommas)) o := by
  refine GoesOn.always ⟨fun e notFound => ?_, fun e other => ?_, fun r found read => ?_,
    fun r problem unread => ?_⟩ z.name
  · exact ⟨_, if_pos notFound, _, rfl, rfl⟩
  · exact ⟨_, if_neg (Bool.not_eq_true _ ▸ other), _, rfl, rfl⟩
  · exact ⟨_, rfl, converted_of_read read ds⟩
  · exact ⟨_, rfl, fails_converted unread ds⟩

/-- Reading back takes a missing zone for a failure. -/
theorem readBack_yields (name : String) (ds : Diagnostics) :
    (readBack name ds).Always fun es o => ∃ reply, es = [⟨.get (zonePath name), reply⟩] ∧
      reply.Yields ds (·.Fails ds)
        (fun r found o => o = .success found (ds ++ r.strayCommas)) o := by
  refine GoesOn.always ⟨fun e _ => ?_, fun e _ => ?_, fun r found read => ?_,
    fun r problem unread => ?_⟩ name
  · exact ⟨_, rfl, _, rfl, rfl⟩
  · exact ⟨_, rfl, _, rfl, rfl⟩
  · exact ⟨_, rfl, converted_of_read read ds⟩
  · exact ⟨_, rfl, fails_converted unread ds⟩

/-- Planning takes a missing zone for one to create. -/
theorem plan_yields {z : Zone} (valid : Diagnostics.hasError z.withDefaults.validate = false)
    (ds : Diagnostics) :
    (z.plan ds).Always fun es o => ∃ reply, es = [⟨.get (zonePath z.name), reply⟩] ∧
      reply.Yields ds (fun o => o = (Plan.toCreate z.withDefaults).checked ds)
        (fun r current o =>
          o = (Plan.toChange current z.withDefaults).checked (ds ++ r.strayCommas)) o := by
  simp only [plan, validate_eq_nil_of_valid valid, Diagnostics.hasError_nil, Bool.false_eq_true,
    if_false, List.append_nil]
  refine GoesOn.always ⟨fun e notFound => ?_, fun e other => ?_, fun r current read => ?_,
    fun r problem unread => ?_⟩ z.name
  · exact ⟨_, if_pos notFound, rfl⟩
  · exact ⟨_, if_neg (Bool.not_eq_true _ ▸ other), _, rfl, rfl⟩
  · refine ⟨_, ?_, rfl⟩
    simp only [converted_of_read read]
    rfl
  · obtain ⟨d, isError, none⟩ := fails_converted unread ds
    refine ⟨_, ?_, d, isError, rfl⟩
    simp only [none]
    rfl

/-- Nothing is asked, and nothing planned, for a zone that breaks a rule. -/
theorem plan_of_invalid {z : Zone} (invalid : Diagnostics.hasError z.withDefaults.validate = true)
    (ds : Diagnostics) : z.plan ds = .done (.failure (ds ++ z.withDefaults.validate)) := by
  simp only [plan, invalid, if_true]

end Zone

end SdnZones
