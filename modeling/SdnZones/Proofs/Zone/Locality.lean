-- SUMMARY: Requests and procedures that read and change the entries of some names only.
import SdnZones.Proofs.Api.Interleaving
import SdnZones.Proofs.Zone.Convergence

/-!
# Locality

A request that concerns a name acts on the entry of that name (`Request.Concerns.exists_action`): a
cluster answers from this entry alone and leaves all others as they are. So does a procedure whose
requests concern some names, with the entries of these (`Procedure.ConfinedTo.run_agrees`,
`Procedure.ConfinedTo.frame`), and two procedures that are confined to different names do not notice
each other, however their calls are interleaved (`Procedure.Interleaves.sideBySide`).
-/

namespace SdnZones

/-! ## Entries -/

namespace Cluster

/-- The zones with another entry under a name. -/
def setEntry (zones : Stored) (name : String) : Option (Dict Json) → Stored
  | some fields => zones.insert name fields
  | none => zones.erase name

theorem get?_setEntry (zones : Stored) (name key : String) (entry : Option (Dict Json)) :
    (setEntry zones name entry).get? key = if key = name then entry else zones.get? key := by
  cases entry with
  | none => exact Dict.get?_erase zones name key
  | some fields => exact Dict.get?_insert zones name key fields

theorem get?_setEntry_self (zones : Stored) (name : String) (entry : Option (Dict Json)) :
    (setEntry zones name entry).get? name = entry := by
  rw [get?_setEntry, if_pos rfl]

/-- An entry that is there already changes nothing. -/
theorem setEntry_of_get? {zones : Stored} {name : String} {entry : Option (Dict Json)}
    (held : zones.get? name = entry) : setEntry zones name entry = zones := by
  refine Dict.ext_get? fun key => ?_
  rw [get?_setEntry, ← held]
  split
  · rename_i same
    rw [same]
  · rfl

end Cluster

/-! ## Requests -/

/-- A request that addresses the zone of a name; if it writes, it writes fields of that name. -/
inductive Request.Concerns (name : String) : Request → Prop where
  | get : Concerns name (.get (zonePath name))
  | delete : Concerns name (.delete (zonePath name))
  | post {body : Dict Json} (zone : body.get? "zone" = some (.text name)) :
    Concerns name (.post zonesRoot (.ofDict body))
  | put {body : Dict Json} (zone : body.get? "zone" = some (.text name)) :
    Concerns name (.put (zonePath name) (.ofDict body))

/-- A request acts on the entry of a name: the answer and the entry afterwards come from the entry
before, and what is stored there keeps its name. -/
structure Request.ActsBy (request : Request) (name : String)
    (act : Option (Dict Json) → Reply × Option (Dict Json)) : Prop where
  answer : ∀ zones, Cluster.answer zones request =
    ((act (zones.get? name)).1, Cluster.setEntry zones name (act (zones.get? name)).2)
  keyed : ∀ entry : Option (Dict Json), (∀ fields ∈ entry, Cluster.nameIn fields = name) →
    ∀ fields ∈ (act entry).2, Cluster.nameIn fields = name

theorem Cluster.nameIn_of_zone {fields : Dict Json} {name : String}
    (zone : fields.get? "zone" = some (.text name)) : nameIn fields = name := by
  rw [nameIn, zone]
  rfl

/-- An update keeps the name that its body gives. -/
theorem Cluster.nameIn_updated {fields body : Dict Json} {name : String}
    (zone : body.get? "zone" = some (.text name)) : nameIn (updated fields body) = name := by
  apply nameIn_of_zone
  rw [get?_updated, Dict.get?_erase, if_neg (by decide), zone]
  rfl

/-! ## Refusals -/

namespace Cluster

variable {zones : Stored} {name : String} {fields body : Dict Json}

/-- The error for a second zone of a name. -/
def taken (name : String) : ApiError := .status 500 s!"sdn '{name}' already defined"

theorem answer_post_of_some (stored : zones.get? (nameIn body) = some fields) :
    answer zones (.post zonesRoot (.ofDict body)) = (.error (taken (nameIn body)), zones) := by
  have stored : zones.contains (nameIn body) = true := by rw [Dict.contains, stored]; rfl
  simp only [answer, Request.post, if_true, Option.getD_some, Json.toDict_ofDict, stored, taken]

theorem answer_put_of_typed (named : name ≠ "") (stored : zones.get? name = some fields)
    (typed : body.contains "type" = true) :
    answer zones (.put (zonePath name) (.ofDict body)) = (.error kindGiven, zones) := by
  simp only [answer, Request.put, zonePath_ne_zonesRoot named, zonePath_ne_versionPath named,
    false_and, if_false, zoneOfPath?_zonePath named, stored, Option.getD_some, Json.toDict_ofDict,
    typed, if_true]

theorem answer_put_of_none (named : name ≠ "") (absent : zones.get? name = none) :
    answer zones (.put (zonePath name) (.ofDict body)) = (.error (missing name), zones) := by
  simp only [answer, Request.put, zonePath_ne_zonesRoot named, zonePath_ne_versionPath named,
    false_and, if_false, zoneOfPath?_zonePath named, absent]

theorem answer_delete_of_none (named : name ≠ "") (absent : zones.get? name = none) :
    answer zones (.delete (zonePath name)) = (.error (missing name), zones) := by
  simp only [answer, Request.delete, zonePath_ne_zonesRoot named, zonePath_ne_versionPath named,
    false_and, if_false, zoneOfPath?_zonePath named, absent]

end Cluster

/-! ## Requests that concern a name -/

namespace Request.Concerns

variable {name : String}

theorem exists_action_get (named : name ≠ "") :
    ∃ act, (Request.get (zonePath name)).ActsBy name act := by
  refine ⟨fun entry => (match entry with
      | some fields => .ok (.ok (.object [("data", Cluster.shown fields)]))
      | none => .error (Cluster.missing name), entry), fun zones => ?_, fun _ keyed => keyed⟩
  cases stored : zones.get? name <;>
    simp only [Cluster.answer_get zones named, stored, Cluster.setEntry_of_get? stored]

theorem exists_action_delete (named : name ≠ "") :
    ∃ act, (Request.delete (zonePath name)).ActsBy name act := by
  refine ⟨fun entry => (match entry with
      | some _ => .ok (.ok .null)
      | none => .error (Cluster.missing name), none), fun zones => ?_, fun _ _ _ h => by cases h⟩
  cases stored : zones.get? name with
  | some fields => exact Cluster.answer_delete named stored
  | none => rw [Cluster.setEntry_of_get? stored, Cluster.answer_delete_of_none named stored]

theorem exists_action_post {body : Dict Json} (zone : body.get? "zone" = some (.text name)) :
    ∃ act, (Request.post zonesRoot (.ofDict body)).ActsBy name act := by
  obtain rfl := Cluster.nameIn_of_zone zone
  refine ⟨fun
      | some fields => (.error (Cluster.taken (Cluster.nameIn body)), some fields)
      | none => (.ok (.ok .null), some body), fun zones => ?_, fun entry keyed => ?_⟩
  · cases stored : zones.get? (Cluster.nameIn body) with
    | some fields => rw [Cluster.setEntry_of_get? stored, Cluster.answer_post_of_some stored]
    | none => exact Cluster.answer_post stored
  · cases entry with
    | some fields => exact keyed
    | none =>
      rintro fields ⟨⟩
      rfl

theorem exists_action_put (named : name ≠ "") {body : Dict Json}
    (zone : body.get? "zone" = some (.text name)) :
    ∃ act, (Request.put (zonePath name) (.ofDict body)).ActsBy name act := by
  cases typed : body.contains "type" with
  | true =>
    refine ⟨fun entry => (match entry with
        | some _ => .error Cluster.kindGiven
        | none => .error (Cluster.missing name), entry), fun zones => ?_, fun _ keyed => keyed⟩
    cases stored : zones.get? name with
    | some fields =>
      rw [Cluster.setEntry_of_get? stored, Cluster.answer_put_of_typed named stored typed]
    | none => rw [Cluster.setEntry_of_get? stored, Cluster.answer_put_of_none named stored]
  | false =>
    have untyped : body.get? "type" = none := by simpa [Dict.contains] using typed
    refine ⟨fun
        | some fields => (.ok (.ok .null), some (Cluster.updated fields body))
        | none => (.error (Cluster.missing name), none), fun zones => ?_, fun entry _ => ?_⟩
    · cases stored : zones.get? name with
      | some fields => exact Cluster.answer_put named stored untyped
      | none => rw [Cluster.setEntry_of_get? stored, Cluster.answer_put_of_none named stored]
    · cases entry with
      | some fields =>
        rintro _ ⟨⟩
        exact Cluster.nameIn_updated zone
      | none =>
        rintro _ ⟨⟩

/-- A request that concerns a name acts on its entry. -/
theorem exists_action {request : Request} (concerns : request.Concerns name)
    (named : name ≠ "") : ∃ act, request.ActsBy name act := by
  cases concerns with
  | get => exact exists_action_get named
  | delete => exact exists_action_delete named
  | post zone => exact exists_action_post zone
  | put zone => exact exists_action_put named zone

end Request.Concerns

/-! ## Calls -/

namespace Cluster

/-- Two clusters have the same entries under some names. -/
def AgreesOn (names : Set String) (c c' : Cluster) : Prop :=
  ∀ name ∈ names, c.zones.get? name = c'.zones.get? name

section

variable {names : Set String} {name : String} {c c' : Cluster} {request : Request}
  (concerns : request.Concerns name) (named : name ≠ "") (calm : c.queued = [])

theorem queued_call (calm : c.queued = []) (request : Request) :
    (transport.call request c).2.queued = [] := by
  rw [call_of_calm calm]
  exact calm

theorem requests_call (calm : c.queued = []) (request : Request) :
    (transport.call request c).2.requests = c.requests ++ [request] := by
  rw [call_of_calm calm]
  rfl

include concerns named calm

/-- The entries of other names stay as they are. -/
theorem get?_call_of_ne {other : String} (ne : other ≠ name) :
    (transport.call request c).2.zones.get? other = c.zones.get? other := by
  obtain ⟨act, acts⟩ := concerns.exists_action named
  rw [call_of_calm calm, acts.answer]
  show (setEntry c.zones name _).get? other = _
  rw [get?_setEntry, if_neg ne]

theorem keyed_call (keyed : c.Keyed) : (transport.call request c).2.Keyed := by
  obtain ⟨act, acts⟩ := concerns.exists_action named
  intro key fields stored
  by_cases h : key = name
  · rw [call_of_calm calm, acts.answer, h] at stored
    rw [h]
    exact acts.keyed _ (keyed name) fields ((get?_setEntry_self _ _ _).symm.trans stored)
  · rw [get?_call_of_ne concerns named calm h] at stored
    exact keyed key fields stored

/-- The reply and the entry afterwards come from the entry before. -/
theorem call_eq_of_get? (calm' : c'.queued = []) (same : c.zones.get? name = c'.zones.get? name) :
    (transport.call request c).1 = (transport.call request c').1 ∧
      (transport.call request c).2.zones.get? name =
        (transport.call request c').2.zones.get? name := by
  obtain ⟨act, acts⟩ := concerns.exists_action named
  rw [call_of_calm calm, call_of_calm calm', acts.answer, acts.answer, same]
  exact ⟨rfl, (get?_setEntry_self _ _ _).trans (get?_setEntry_self _ _ _).symm⟩

theorem agreesOn_call (calm' : c'.queued = []) (mem : name ∈ names) (agree : c.AgreesOn names c') :
    (transport.call request c).2.AgreesOn names (transport.call request c').2 := by
  intro other hother
  by_cases h : other = name
  · rw [h]
    exact (call_eq_of_get? concerns named calm calm' (agree name mem)).2
  · rw [get?_call_of_ne concerns named calm h, get?_call_of_ne concerns named calm' h]
    exact agree other hother

end

end Cluster

/-! ## Procedures -/

namespace Procedure

variable {α β : Type} {names : Set String} {c c' : Cluster}

/-- Run on a cluster, a procedure makes only requests that concern some names. -/
def ConfinedTo (p : Procedure α) (names : Set String) (c : Cluster) : Prop :=
  ∀ e ∈ p.exchanges Cluster.transport c, ∃ name ∈ names, e.request.Concerns name

theorem ConfinedTo.of_call {request : Request} {next : Reply → Procedure α}
    (confined : (call request next).ConfinedTo names c) (unnamed : "" ∉ names) :
    (∃ name ∈ names, name ≠ "" ∧ request.Concerns name) ∧
      (next (Cluster.transport.call request c).1).ConfinedTo names
        (Cluster.transport.call request c).2 := by
  obtain ⟨⟨name, mem, concerns⟩, rest⟩ := List.forall_mem_cons.1 confined
  exact ⟨⟨name, mem, fun h => unnamed (h ▸ mem), concerns⟩, rest⟩

theorem confinedTo_bind_iff {p : Procedure α} {k : α → Procedure β} :
    (p.bind k).ConfinedTo names c ↔
      p.ConfinedTo names c ∧
        (k (p.run Cluster.transport c).1).ConfinedTo names (p.run Cluster.transport c).2 := by
  rw [ConfinedTo, exchanges_bind, List.forall_mem_append]
  rfl

theorem queued_run (p : Procedure α) (calm : c.queued = []) :
    (p.run Cluster.transport c).2.queued = [] := by
  induction p generalizing c with
  | done a => exact calm
  | call request next ih => exact ih _ (Cluster.queued_call calm request)

namespace ConfinedTo

variable {p : Procedure α} (confined : p.ConfinedTo names c) (unnamed : "" ∉ names)
  (calm : c.queued = [])
include confined unnamed calm

/-- A confined procedure leaves the entries of other names as they are. -/
theorem frame {other : String} (outside : other ∉ names) :
    (p.run Cluster.transport c).2.zones.get? other = c.zones.get? other := by
  induction p generalizing c with
  | done a => rfl
  | call request next ih =>
    obtain ⟨⟨name, mem, named, concerns⟩, rest⟩ := confined.of_call unnamed
    have ne : other ≠ name := fun h => outside (h ▸ mem)
    exact (ih _ rest (Cluster.queued_call calm request)).trans
      (Cluster.get?_call_of_ne concerns named calm ne)

theorem keyed (keyed : c.Keyed) : (p.run Cluster.transport c).2.Keyed := by
  induction p generalizing c with
  | done a => exact keyed
  | call request next ih =>
    obtain ⟨⟨name, mem, named, concerns⟩, rest⟩ := confined.of_call unnamed
    exact ih _ rest (Cluster.queued_call calm request)
      (Cluster.keyed_call concerns named calm keyed)

/-- A confined procedure makes the same exchanges, has the same result and leaves the same entries
wherever the entries of its names are the same. -/
theorem run_agrees (calm' : c'.queued = []) (agree : c.AgreesOn names c') :
    p.exchanges Cluster.transport c = p.exchanges Cluster.transport c' ∧
      (p.run Cluster.transport c).1 = (p.run Cluster.transport c').1 ∧
      (p.run Cluster.transport c).2.AgreesOn names (p.run Cluster.transport c').2 := by
  induction p generalizing c c' with
  | done a => exact ⟨rfl, rfl, agree⟩
  | call request next ih =>
    obtain ⟨⟨name, mem, named, concerns⟩, rest⟩ := confined.of_call unnamed
    have reply := (Cluster.call_eq_of_get? concerns named calm calm' (agree name mem)).1
    have agreeAfter := Cluster.agreesOn_call concerns named calm calm' mem agree
    obtain ⟨exchanges, result, after⟩ := ih _ rest (Cluster.queued_call calm request)
      (Cluster.queued_call calm' request) agreeAfter
    -- the same reply, so both runs go on with the same procedure
    rw [run, run, Procedure.exchanges, Procedure.exchanges]
    simp only [← reply]
    exact ⟨congrArg _ exchanges, result, after⟩

end ConfinedTo

/-! ## Interleavings -/

/-- A result, and entries of some names, are those that a procedure would come to alone. -/
structure AsAlone (p : Procedure α) (names : Set String) (c : Cluster) (result : α)
    (after : Cluster) : Prop where
  result : result = (p.run Cluster.transport c).1
  entries : after.AgreesOn names (p.run Cluster.transport c).2

/-- Two procedures together came to what each would have come to alone. -/
structure SideBySide (p : Procedure α) (q : Procedure β) (names names' : Set String) (c : Cluster)
    (ran : (α × β) × Cluster) : Prop where
  first : p.AsAlone names c ran.1.1 ran.2
  second : q.AsAlone names' c ran.1.2 ran.2
  others : ∀ name, name ∉ names → name ∉ names' → ran.2.zones.get? name = c.zones.get? name
  requests : ran.2.requests.Perm (c.requests ++
    ((p.exchanges Cluster.transport c).map (·.request) ++
      (q.exchanges Cluster.transport c).map (·.request)))

section

variable {p : Procedure α} {request : Request} {name : String} (confined : p.ConfinedTo names c)
  (unnamed : "" ∉ names) (calm : c.queued = []) (concerns : request.Concerns name)
  (named : name ≠ "") (outside : name ∉ names)
include confined unnamed calm concerns named outside

/-- A call that concerns no name of a procedure makes no difference to its run. -/
theorem ConfinedTo.run_after_call :
    let after := (Cluster.transport.call request c).2
    p.exchanges Cluster.transport after = p.exchanges Cluster.transport c ∧
      (p.run Cluster.transport after).1 = (p.run Cluster.transport c).1 ∧
      (p.run Cluster.transport after).2.AgreesOn names (p.run Cluster.transport c).2 := by
  intro after
  have agree : c.AgreesOn names after := fun other mem =>
    (Cluster.get?_call_of_ne concerns named calm fun h => outside (h ▸ mem)).symm
  obtain ⟨exchanges, result, entries⟩ :=
    confined.run_agrees unnamed calm (Cluster.queued_call calm request) agree
  exact ⟨exchanges.symm, result.symm, fun other mem => (entries other mem).symm⟩

theorem ConfinedTo.after_call : p.ConfinedTo names (Cluster.transport.call request c).2 := by
  rw [ConfinedTo, (confined.run_after_call unnamed calm concerns named outside).1]
  exact confined

theorem AsAlone.before_call {result : α} {after : Cluster}
    (alone : p.AsAlone names (Cluster.transport.call request c).2 result after) :
    p.AsAlone names c result after := by
  obtain ⟨_, same, entries⟩ := confined.run_after_call unnamed calm concerns named outside
  exact ⟨alone.result.trans same, fun other mem =>
    (alone.entries other mem).trans (entries other mem)⟩

end

/-- Two procedures that are confined to different names do not notice each other. -/
theorem Interleaves.sideBySide {p : Procedure α} {q : Procedure β} {both : Procedure (α × β)}
    (interleaves : Interleaves p q both) {names' : Set String} (disjoint : Disjoint names names')
    (unnamed : "" ∉ names) (unnamed' : "" ∉ names') (calm : c.queued = [])
    (confined : p.ConfinedTo names c) (confined' : q.ConfinedTo names' c) :
    p.SideBySide q names names' c (both.run Cluster.transport c) := by
  induction interleaves generalizing c with
  | done a b =>
    refine ⟨⟨rfl, fun _ _ => rfl⟩, ⟨rfl, fun _ _ => rfl⟩, fun _ _ _ => rfl, ?_⟩
    exact .of_eq (List.append_nil _).symm
  | @left request next q both rest ih =>
    -- the second procedure does not notice the call, so it still comes to what it does alone
    obtain ⟨⟨name, mem, named, concerns⟩, confinedNext⟩ := confined.of_call unnamed
    have outside : name ∉ names' := Set.disjoint_left.1 disjoint mem
    have together := ih _ (Cluster.queued_call calm request) confinedNext
      (confined'.after_call unnamed' calm concerns named outside)
    refine ⟨⟨together.first.result, together.first.entries⟩,
      together.second.before_call confined' unnamed' calm concerns named outside,
      fun other hother hother' => ?_, together.requests.trans (.of_eq ?_)⟩
    · exact (together.others other hother hother').trans
        (Cluster.get?_call_of_ne concerns named calm fun h => hother (h ▸ mem))
    · rw [(confined'.run_after_call unnamed' calm concerns named outside).1,
        Cluster.requests_call calm, List.append_assoc]
      rfl
  | @right request p next both rest ih =>
    obtain ⟨⟨name, mem, named, concerns⟩, confinedNext⟩ := confined'.of_call unnamed'
    have outside : name ∉ names := Set.disjoint_right.1 disjoint mem
    have together := ih _ (Cluster.queued_call calm request)
      (confined.after_call unnamed calm concerns named outside) confinedNext
    refine ⟨together.first.before_call confined unnamed calm concerns named outside,
      ⟨together.second.result, together.second.entries⟩,
      fun other hother hother' => ?_, together.requests.trans ?_⟩
    · exact (together.others other hother hother').trans
        (Cluster.get?_call_of_ne concerns named calm fun h => hother' (h ▸ mem))
    · rw [(confined.run_after_call unnamed calm concerns named outside).1,
        Cluster.requests_call calm, List.append_assoc, List.singleton_append, exchanges,
        List.map_cons]
      exact List.perm_middle.symm.append_left c.requests

/-- What the cluster stores afterwards does not depend on how the calls were interleaved. -/
theorem SideBySide.zones_eq {p : Procedure α} {q : Procedure β} {names' : Set String}
    {ran ran' : (α × β) × Cluster} (h : p.SideBySide q names names' c ran)
    (h' : p.SideBySide q names names' c ran') : ran.2.zones = ran'.2.zones := by
  refine Dict.ext_get? fun name => ?_
  by_cases first : name ∈ names
  · exact (h.first.entries name first).trans (h'.first.entries name first).symm
  · by_cases second : name ∈ names'
    · exact (h.second.entries name second).trans (h'.second.entries name second).symm
    · exact (h.others name first second).trans (h'.others name first second).symm

/-- Two procedures come to the same in either order, and leave the same stored zones. -/
structure Commutes (p : Procedure α) (q : Procedure β) (c : Cluster) : Prop where
  first : (p.run Cluster.transport (q.run Cluster.transport c).2).1 = (p.run Cluster.transport c).1
  second : (q.run Cluster.transport (p.run Cluster.transport c).2).1 = (q.run Cluster.transport c).1
  zones : (p.run Cluster.transport (q.run Cluster.transport c).2).2.zones =
    (q.run Cluster.transport (p.run Cluster.transport c).2).2.zones
  requests : (p.run Cluster.transport (q.run Cluster.transport c).2).2.requests.Perm
    (q.run Cluster.transport (p.run Cluster.transport c).2).2.requests

/-- One after the other is an interleaving, in either order. -/
theorem commutes_of_sideBySide {p : Procedure α} {q : Procedure β} {names' : Set String}
    (together : ∀ both, p.Interleaves q both →
      p.SideBySide q names names' c (both.run Cluster.transport c)) : p.Commutes q c := by
  have pq := together _ (.first_before p q)
  have qp := together _ (.second_before p q)
  rw [run_bind, run_map] at pq qp
  exact ⟨qp.first.result, pq.second.result, qp.zones_eq pq, qp.requests.trans pq.requests.symm⟩

end Procedure

end SdnZones
