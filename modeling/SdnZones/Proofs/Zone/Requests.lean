-- SUMMARY: The requests of each operation, and when an operation has a result.
import SdnZones.Proofs.Zone.Lifecycle
import SdnZones.Proofs.Zone.Operation

/-!
# Requests

For each operation there is one law about all its runs: which requests it makes after which
replies, and that it has a result exactly if it reports no error (`Zone.create_always` and its
companions). `Operation.request_discipline` says which sequences of exchanges an operation can
leave, and that none of them holds a request twice.
-/

namespace SdnZones

variable {α σ : Type}

theorem Diagnostics.hasError_iff {ds : Diagnostics} :
    hasError ds = true ↔ ∃ d ∈ ds, d.severity = .error := by
  simp [hasError, Diagnostic.isError]

/-- There is no result exactly if an error tells why. -/
def Outcome.Explained (o : Outcome α) : Prop :=
  o.result = none ↔ ∃ d ∈ o.diagnostics, d.severity = .error

namespace Outcome.Explained

theorem iff_hasError {o : Outcome α} :
    o.Explained ↔ (o.result = none ↔ Diagnostics.hasError o.diagnostics = true) := by
  rw [Explained, Diagnostics.hasError_iff]

theorem hasError_of_none {ds : Diagnostics} (h : (⟨none, ds⟩ : Outcome α).Explained) :
    Diagnostics.hasError ds = true := (iff_hasError.1 h).1 rfl

theorem noError_of_some {a : α} {ds : Diagnostics} (h : (⟨some a, ds⟩ : Outcome α).Explained) :
    Diagnostics.hasError ds = false := by
  rw [← Bool.not_eq_true]
  exact fun error => Option.some_ne_none a ((iff_hasError.1 h).2 error)

theorem after {ds : Diagnostics} {o : Outcome α} (noError : Diagnostics.hasError ds = false)
    (h : o.Explained) : (o.after ds).Explained := by
  rw [iff_hasError] at h ⊢
  show o.result = none ↔ Diagnostics.hasError (ds ++ o.diagnostics) = true
  rw [Diagnostics.hasError_append, noError, Bool.false_or]
  exact h

theorem success (a : α) {ds : Diagnostics} (noError : Diagnostics.hasError ds = false) :
    (Outcome.success a ds).Explained := by
  simp [iff_hasError, Outcome.success, noError]

theorem failure {ds : Diagnostics} (error : Diagnostics.hasError ds = true) :
    (Outcome.failure ds : Outcome α).Explained := by
  simp [iff_hasError, Outcome.failure, error]

theorem failed (ds : Diagnostics) (d : Diagnostic) (error : d.isError = true) :
    (⟨none, ds ++ [d]⟩ : Outcome α).Explained := by
  simp [iff_hasError, Diagnostics.hasError, error]

end Outcome.Explained

/-! ## Calls -/

/-- The zone that was to be deleted is not there any more. -/
def Reply.meansGone : Reply → Bool
  | .ok _ => true
  | .error e => e.meansMissing

theorem ZonesError.isNotFound_classify (action zone : String) (e : ApiError) :
    (classify action zone e).isNotFound = e.meansMissing := by
  cases e with
  | status code m =>
    simp only [classify]
    split
    · rename_i missing
      rw [missing]
      rfl
    · rename_i other
      rw [Bool.not_eq_true] at other
      rw [other]
      rfl
  | _ => rfl

namespace Zones

theorem get_always (name : String) :
    (get name).Always fun es _ => ∃ reply, es = [⟨.get (zonePath name), reply⟩] :=
  .call fun reply => .done ⟨reply, rfl⟩

/-- A deletion succeeds, or fails as one of a missing zone, exactly if the zone is gone. -/
theorem delete_always (name : String) :
    (delete name).Always fun es done => ∃ reply, es = [⟨.delete (zonePath name), reply⟩] ∧
      match done with
      | .ok _ => Reply.meansGone reply = true
      | .error e => e.isNotFound = Reply.meansGone reply := by
  refine .call fun reply => .done ?_
  cases reply with
  | ok response => exact ⟨_, rfl, rfl⟩
  | error e => exact ⟨_, rfl, ZonesError.isNotFound_classify _ name e⟩

/-- A call that makes one request, and succeeds if this does. -/
def Writes (write : Procedure (Except ZonesError Unit)) (request : Request) : Prop :=
  write.Always fun es done => ∃ reply, es = [⟨request, reply⟩] ∧ done.isOk = reply.isOk

theorem writes_create (r : Record) :
    Writes (create r) (.post zonesRoot (.ofDict r.fields)) := by
  refine .call fun reply => .done ?_
  cases reply with
  | ok response => exact ⟨_, rfl, rfl⟩
  | error e => exact ⟨_, rfl, rfl⟩

theorem writes_update (name : String) (u : UpdateRequest) :
    Writes (update name u) (.put (zonePath name) (.ofDict u.fields)) := by
  refine .call fun reply => .done ?_
  cases reply with
  | ok response => exact ⟨_, rfl, rfl⟩
  | error e => exact ⟨_, rfl, rfl⟩

end Zones

/-- A write, and a read exactly if the write went well. -/
inductive WritesThenReads (write read : Request) : List Exchange → Prop where
  | refused (e : ApiError) : WritesThenReads write read [⟨write, .error e⟩]
  | written (response : Response) (reply : Reply) :
    WritesThenReads write read [⟨write, .ok response⟩, ⟨read, reply⟩]

namespace Zone

/-! ## Reading -/

theorem explained_converted (r : Record) : (converted r []).Explained := by
  simp only [converted]
  cases ofRecord? r with
  | ok zone => exact .success zone (Record.hasError_strayCommas r)
  | error problem => exact .failed _ _ rfl

theorem readBack_always (name : String) :
    (readBack name []).Always fun es o =>
      (∃ reply, es = [⟨.get (zonePath name), reply⟩]) ∧ o.Explained := by
  refine .bind ((Zones.get_always name).mono fun es got ⟨reply, asked⟩ => ?_)
  cases got with
  | ok record => exact .done ⟨⟨reply, by rw [asked]; rfl⟩, explained_converted record⟩
  | error e => exact .done ⟨⟨reply, by rw [asked]; rfl⟩, .failed _ _ rfl⟩

theorem read_always (z : Zone) :
    (z.read []).Always fun es o =>
      (∃ reply, es = [⟨.get (zonePath z.name), reply⟩]) ∧ o.Explained := by
  refine .bind ((Zones.get_always z.name).mono fun es got ⟨reply, asked⟩ => ?_)
  cases got with
  | ok record => exact .done ⟨⟨reply, by rw [asked]; rfl⟩, explained_converted record⟩
  | error e =>
    simp only
    split
    · exact .done ⟨⟨reply, by rw [asked]; rfl⟩, .success _ rfl⟩
    · exact .done ⟨⟨reply, by rw [asked]; rfl⟩, .failed _ _ rfl⟩

/-! ## Writing -/

/-- The exchanges of writing a zone by a request: none if it is not accepted. -/
def Submits (z : Zone) (request : Request) (es : List Exchange) : Prop :=
  (z.Accepted ∧ WritesThenReads request (.get (zonePath z.name)) es) ∨ (¬ z.Accepted ∧ es = [])

/-- The exchanges of creating a zone. -/
def Creates (z : Zone) : List Exchange → Prop :=
  z.Submits (.post zonesRoot (.ofDict z.withDefaults.toRecord.fields))

/-- The exchanges of updating a zone. -/
def Updates (z : Zone) : List Exchange → Prop :=
  z.Submits (.put (zonePath z.name) (.ofDict z.withDefaults.toUpdate.fields))

theorem submit_always {z : Zone} {write : Procedure (Except ZonesError Unit)}
    {complaint : ZonesError → Diagnostic} {request : Request}
    (writes : Zones.Writes write request) (isError : ∀ e, (complaint e).isError = true) :
    (z.submit write complaint []).Always fun es o => z.Submits request es ∧ o.Explained := by
  by_cases accepted : z.Accepted
  · rw [submit_of_accepted write complaint accepted]
    refine .bind (writes.mono fun es done ⟨reply, asked, same⟩ => ?_)
    cases done with
    | ok u =>
      cases reply with
      | error e => cases same
      | ok response =>
        refine (readBack_always z.name).mono fun more o ⟨⟨second, read⟩, explained⟩ => ?_
        refine ⟨.inl ⟨accepted, ?_⟩, explained⟩
        rw [asked, read]
        exact .written response second
    | error e =>
      cases reply with
      | ok response => cases same
      | error cause =>
        refine .done ⟨.inl ⟨accepted, ?_⟩, .failed _ _ (isError e)⟩
        rw [asked]
        exact .refused cause
  · obtain ⟨errors, hasError, refused⟩ := submit_of_not_accepted write complaint accepted
    rw [refused]
    exact .done ⟨.inr ⟨accepted, rfl⟩, .failure hasError⟩

theorem create_always (z : Zone) :
    (z.create []).Always fun es o => z.Creates es ∧ o.Explained := by
  rw [create_eq_submit]
  exact submit_always (Zones.writes_create _) fun _ => rfl

theorem update_always (z : Zone) :
    (z.update []).Always fun es o => z.Updates es ∧ o.Explained := by
  rw [update_eq_submit]
  exact submit_always (Zones.writes_update _ _) fun _ => rfl

/-- A deletion reports an error exactly if the zone may still be there. -/
theorem delete_always (z : Zone) :
    (z.delete []).Always fun es said => ∃ reply,
      es = [⟨.delete (zonePath z.name), reply⟩] ∧
        Diagnostics.hasError said = !Reply.meansGone reply := by
  refine .bind ((Zones.delete_always z.name).mono fun es done ⟨reply, asked, gone⟩ => ?_)
  cases done with
  | ok u => exact .done ⟨reply, by rw [asked]; rfl, by rw [gone]; rfl⟩
  | error e =>
    simp only at gone ⊢
    split
    · rename_i missing
      exact .done ⟨reply, by rw [asked]; rfl, by rw [← gone, missing]; rfl⟩
    · rename_i other
      rw [Bool.not_eq_true] at other
      exact .done ⟨reply, by rw [asked]; rfl, by rw [← gone, other]; rfl⟩

/-! ## Planning -/

theorem explained_checked (p : Plan) {ds : Diagnostics}
    (noError : Diagnostics.hasError ds = false) : (p.checked ds).Explained := by
  simp only [Plan.checked]
  split
  · rename_i error
    exact .failure (by rw [Diagnostics.hasError_append, error, Bool.or_true])
  · rename_i noMore
    rw [Bool.not_eq_true] at noMore
    exact .success p (by rw [Diagnostics.hasError_append, noError, noMore]; rfl)

/-- The exchanges of planning a zone: none if it breaks a rule. -/
def Looks (z : Zone) (es : List Exchange) : Prop :=
  (Diagnostics.hasError z.withDefaults.validate = false ∧
      ∃ reply, es = [⟨.get (zonePath z.name), reply⟩]) ∨
    (Diagnostics.hasError z.withDefaults.validate = true ∧ es = [])

/-- A plan that can be made for a zone: to create it, or to change what is there. -/
def Plannable (z : Zone) (p : Plan) : Prop :=
  z.Accepted ∧
    (p = Plan.toCreate z.withDefaults ∨ ∃ current, p = Plan.toChange current z.withDefaults)

theorem plan_always (z : Zone) :
    (z.plan []).Always fun es o =>
      z.Looks es ∧ o.Explained ∧ ∀ p, o.result = some p → z.Plannable p := by
  simp only [plan]
  split
  · rename_i invalid
    exact .done ⟨.inr ⟨invalid, rfl⟩, .failure invalid, fun p planned => by cases planned⟩
  · rename_i valid
    rw [Bool.not_eq_true] at valid
    refine .bind ((Zones.get_always z.name).mono fun es got looked => ?_)
    obtain ⟨reply, asked⟩ := looked
    have looks : z.Looks (es ++ []) := .inl ⟨valid, reply, by rw [asked]; rfl⟩
    rw [validate_eq_nil_of_valid valid]
    cases got with
    | ok record =>
      have explained := explained_converted record
      cases read : converted record [] with
      | mk result said =>
        rw [read] at explained
        simp only [List.append_nil, read]
        cases result with
        | none =>
          refine .done ⟨looks, .failure explained.hasError_of_none, fun p planned => ?_⟩
          cases planned
        | some current =>
          refine .done ⟨looks, explained_checked _ explained.noError_of_some, fun p planned => ?_⟩
          obtain ⟨rfl, _, sendable⟩ := checked_eq_some_iff.1 planned
          exact ⟨⟨valid, sendable⟩, .inr ⟨current, rfl⟩⟩
    | error e =>
      simp only
      split
      · refine .done ⟨looks, explained_checked _ rfl, fun p planned => ?_⟩
        obtain ⟨rfl, _, sendable⟩ := checked_eq_some_iff.1 planned
        exact ⟨⟨valid, sendable⟩, .inl rfl⟩
      · exact .done ⟨looks, .failed _ _ rfl, fun p planned => by cases planned⟩

/-! ## Replacing -/

/-- The exchanges of replacing a zone: its deletion, and those of creating the new one exactly if
the old one is gone then. -/
def Replaces (current desired : Zone) (es : List Exchange) : Prop :=
  ∃ reply rest, es = ⟨.delete (zonePath current.name), reply⟩ :: rest ∧
    if Reply.meansGone reply then desired.Creates rest else rest = []

/-- If the old zone may still be there, a replacement stops and says so. -/
theorem recreate_always (current desired : Zone) :
    ((current.delete []).bind desired.recreate).Always fun es o =>
      (∃ reply rest, es = ⟨.delete (zonePath current.name), reply⟩ :: rest ∧
        if Reply.meansGone reply then desired.Creates rest
        else rest = [] ∧ Diagnostics.hasError o.diagnostics = true) ∧ o.Explained := by
  refine .bind ((delete_always current).mono fun es said ⟨reply, asked, error⟩ => ?_)
  rw [asked]
  cases gone : Reply.meansGone reply with
  | false =>
    rw [gone] at error
    rw [recreate_of_error error]
    exact .done ⟨⟨reply, [], rfl, by rw [gone]; exact ⟨rfl, error⟩⟩, .failure error⟩
  | true =>
    rw [gone] at error
    rw [recreate_of_noError error, ← List.append_nil said, create_append]
    refine .map ((create_always desired).mono fun rest o ⟨creates, explained⟩ => ?_)
    exact ⟨⟨reply, rest, rfl, by rw [gone]; exact creates⟩, explained.after error⟩

end Zone

namespace Operation

/-! ## All operations -/

/-- The exchanges that an operation may leave if it is begun without diagnostics. -/
def Allows : {α : Type} → Operation α → List Exchange → Prop
  | _, .create z, es => z.Creates es
  | _, .read z, es => ∃ reply, es = [⟨.get (zonePath z.name), reply⟩]
  | _, .update z, es => z.Updates es
  | _, .delete z, es => ∃ reply, es = [⟨.delete (zonePath z.name), reply⟩]
  | _, .plan z, es => z.Looks es
  | _, .apply p, es =>
    match p.action, p.current with
    | .nothing, some _ => es = []
    | .nothing, none => p.desired.Creates es
    | .create, _ => p.desired.Creates es
    | .update, _ => p.desired.Updates es
    | .replace _, some current => current.Replaces p.desired es
    | .replace _, none => p.desired.Creates es

/-- Carrying out a plan is one of the other operations, or a deletion and a creation. -/
theorem apply_always (p : Plan) :
    (p.apply []).Always fun es o => (Operation.apply p).Allows es ∧ o.Explained := by
  obtain ⟨action, desired, current, changes⟩ := p
  cases action with
  | create => exact Zone.create_always desired
  | update => exact Zone.update_always desired
  | nothing =>
    cases current with
    | none => exact Zone.create_always desired
    | some current => exact .done ⟨rfl, .success current rfl⟩
  | replace reason =>
    cases current with
    | none => exact Zone.create_always desired
    | some current =>
      refine (Zone.recreate_always current desired).mono fun es o ⟨run, explained⟩ => ?_
      obtain ⟨reply, rest, asked, goesOn⟩ := run
      refine ⟨⟨reply, rest, asked, ?_⟩, explained⟩
      split
      · rename_i gone
        rw [gone] at goesOn
        exact goesOn
      · rename_i still
        rw [if_neg still] at goesOn
        exact goesOn.1

/-! ## No request twice -/

theorem nodup_requests {es : List Exchange} (methods : List Method)
    (order : es.map (·.request.method) <+: methods) (distinct : methods.Nodup) :
    (es.map (·.request)).Nodup := by
  have nodup : ((es.map (·.request)).map Request.method).Nodup := by
    rw [List.map_map]
    exact distinct.sublist order.sublist
  exact List.Pairwise.of_map Request.method
    (fun a b differ same => differ (congrArg Request.method same)) nodup

theorem methods_of_submits {z : Zone} {request : Request} {es : List Exchange}
    (h : z.Submits request es) : es.map (·.request.method) <+: [request.method, .get] := by
  obtain ⟨_, refused | written⟩ | ⟨_, rfl⟩ := h
  · exact ⟨[.get], rfl⟩
  · exact ⟨[], rfl⟩
  · exact ⟨[request.method, .get], rfl⟩

theorem methods_of_replaces {current desired : Zone} {es : List Exchange}
    (h : current.Replaces desired es) : es.map (·.request.method) <+: [.delete, .post, .get] := by
  obtain ⟨reply, rest, rfl, goesOn⟩ := h
  split at goesOn
  · exact List.cons_prefix_cons.2 ⟨rfl, methods_of_submits goesOn⟩
  · subst goesOn
    exact ⟨[.post, .get], rfl⟩

theorem nodup_of_single {es : List Exchange} {request : Request}
    (h : ∃ reply, es = [⟨request, reply⟩]) : (es.map (·.request)).Nodup := by
  obtain ⟨reply, rfl⟩ := h
  exact List.pairwise_singleton _ request

/-- The methods of the requests of an operation are all different. -/
theorem Allows.nodup {op : Operation α} {es : List Exchange} (h : op.Allows es) :
    (es.map (·.request)).Nodup := by
  have creates : ∀ {z : Zone}, z.Creates es → (es.map (·.request)).Nodup :=
    fun h => nodup_requests [.post, .get] (methods_of_submits h) (by decide)
  have updates : ∀ {z : Zone}, z.Updates es → (es.map (·.request)).Nodup :=
    fun h => nodup_requests [.put, .get] (methods_of_submits h) (by decide)
  cases op with
  | create z => exact creates h
  | read z => exact nodup_of_single h
  | update z => exact updates h
  | delete z => exact nodup_of_single h
  | plan z =>
    obtain ⟨_, single⟩ | ⟨_, rfl⟩ := h
    · exact nodup_of_single single
    · exact List.nodup_nil
  | apply p =>
    obtain ⟨action, desired, current, changes⟩ := p
    cases action with
    | create => exact creates h
    | update => exact updates h
    | nothing =>
      cases current with
      | none => exact creates h
      | some current =>
        rw [show es = [] from h]
        exact List.nodup_nil
    | replace reason =>
      cases current with
      | none => exact creates h
      | some current => exact nodup_requests _ (methods_of_replaces h) (by decide)

/-- Whoever answers, an operation makes the requests that it is meant to make, each one only as
far as the replies before it allow, and none twice. -/
theorem request_discipline (op : Operation α) (t : Transport σ) (s : σ) :
    op.Allows ((op.perform []).exchanges t s) ∧
      (((op.perform []).exchanges t s).map (·.request)).Nodup := by
  have allows : op.Allows ((op.perform []).exchanges t s) := by
    cases op with
    | create z => exact ((Zone.create_always z).run t s).1
    | read z => exact ((Zone.read_always z).run t s).1
    | update z => exact ((Zone.update_always z).run t s).1
    | delete z =>
      obtain ⟨reply, asked, _⟩ := (Zone.delete_always z).run t s
      exact ⟨reply, by rw [perform, Procedure.exchanges_map, asked]⟩
    | plan z => exact ((Zone.plan_always z).run t s).1
    | apply p => exact ((apply_always p).run t s).1
  exact ⟨allows, allows.nodup⟩

/-- Where every call goes well, a replacement deletes the old zone, posts the new one and reads it
back. Where every call is refused, it makes no second one. -/
theorem replacement_requests :
    let current : Zone := { name := "zone0", block := some (.vlan {}) }
    let desired : Zone := { name := "zone1", block := some (.simple {}) }
    let p : Plan := ⟨.replace (.nameChanged "zone0" "zone1"), desired, some current, []⟩
    let requests (reply : Reply) : List (Method × String) :=
      (((Operation.apply p).perform []).exchanges (.constant reply) ()).map fun e =>
        (e.request.method, e.request.path)
    requests (.ok (.ok .null)) = [(.delete, "cluster/sdn/zones/zone0"),
        (.post, "cluster/sdn/zones"), (.get, "cluster/sdn/zones/zone1")] ∧
      requests (.error (.status 500 "busy")) = [(.delete, "cluster/sdn/zones/zone0")] := by
  intro current desired p requests
  have oldPath : zonePath current.name = "cluster/sdn/zones/zone0" := by decide
  have newPath : zonePath desired.name = "cluster/sdn/zones/zone1" := by decide
  have replaces : ∀ reply, current.Replaces desired
      (((Operation.apply p).perform []).exchanges (.constant reply) ()) :=
    fun reply => (request_discipline (Operation.apply p) (.constant reply) ()).1
  have replied : ∀ reply, ∀ e ∈ ((Operation.apply p).perform []).exchanges (.constant reply) (),
      e.reply = reply := fun reply e => Procedure.reply_of_mem_exchanges
  constructor
  · obtain ⟨reply, rest, asked, goesOn⟩ := replaces (.ok (.ok .null))
    have replied := replied (.ok (.ok .null))
    rw [asked, List.forall_mem_cons] at replied
    obtain ⟨rfl, replied⟩ := replied
    rw [if_pos (by decide)] at goesOn
    obtain ⟨_, ⟨e⟩ | ⟨response, read⟩⟩ | ⟨refused, _⟩ := goesOn
    · cases replied _ (List.mem_singleton_self _)
    · show List.map _ _ = _
      rw [asked]
      simp only [List.map_cons, List.map_nil, Request.delete, Request.post, Request.get, oldPath,
        newPath, zonesRoot]
    · exact absurd ⟨by decide, by decide⟩ refused
  · obtain ⟨reply, rest, asked, goesOn⟩ := replaces (.error (.status 500 "busy"))
    have replied := replied (.error (.status 500 "busy"))
    rw [asked, List.forall_mem_cons] at replied
    obtain ⟨rfl, _⟩ := replied
    rw [if_neg (by decide)] at goesOn
    show List.map _ _ = _
    rw [asked, goesOn]
    simp only [List.map_cons, List.map_nil, Request.delete, oldPath]

end Operation

end SdnZones
