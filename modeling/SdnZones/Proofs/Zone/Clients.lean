-- SUMMARY: Operations and clients that work with different names do not notice each other.
import SdnZones.Proofs.Zone.Locality
import SdnZones.Proofs.Zone.Subjects

/-!
# Clients

An operation that concerns a name makes only requests that concern it
(`Operation.Concerns.confinedTo`). This holds of carrying out a plan however old it is, since a
plan compares zones of one name (`Plan.MadeFor.name_of_current`). A client performs one operation
after another on names of its own, and may choose each by what came of those before
(`Procedure.WorksOn`). All of these are local, and they are independent of what goes on under other
names (`Cluster.names_independent`).
-/

namespace SdnZones

variable {α β : Type}

/-! ## Operations -/

/-- A plan that was made for a zone of a name, at some time and from whatever was stored then. -/
def Plan.MadeFor (p : Plan) (name : String) : Prop :=
  ∃ (z : Zone) (c : Cluster) (ds : Diagnostics), z.name = name ∧ c.queued = [] ∧ c.Keyed ∧
    ((z.plan ds).run Cluster.transport c).1.result = some p

namespace Plan.MadeFor

variable {p : Plan} {name : String}

theorem name_of_desired (made : p.MadeFor name) : p.desired.name = name := by
  obtain ⟨z, c, ds, rfl, calm, keyed, planned⟩ := made
  obtain ⟨_, _, ⟨_, rfl⟩ | ⟨current, _, rfl⟩⟩ := Zone.run_plan calm planned
  · rfl
  · rfl

/-- A zone that is to be replaced has the name that it was found under. -/
theorem name_of_current (made : p.MadeFor name) {current : Zone} (h : p.current = some current) :
    current.name = name := by
  obtain ⟨z, c, ds, rfl, calm, keyed, planned⟩ := made
  obtain ⟨_, _, ⟨_, rfl⟩ | ⟨found, shows, rfl⟩⟩ := Zone.run_plan calm planned
  · cases h
  · obtain rfl : found = current := Option.some.inj h
    exact keyed.name_of_shows shows

end Plan.MadeFor

namespace Operation

/-- An operation on a zone of a name, or on a plan that was made for one. -/
def Concerns (name : String) : {α : Type} → Operation α → Prop
  | _, .create z => z.name = name
  | _, .read z => z.name = name
  | _, .update z => z.name = name
  | _, .delete z => z.name = name
  | _, .plan z => z.name = name
  | _, .apply p => p.MadeFor name

/-- To carry out a plan concerns the name that it was made for. -/
theorem concerns_of_planned {z : Zone} {c : Cluster} {ds : Diagnostics} {p : Plan}
    (calm : c.queued = []) (keyed : c.Keyed)
    (planned : (((plan z).perform ds).run Cluster.transport c).1.result = some p) :
    (apply p).Concerns z.name :=
  ⟨z, c, ds, rfl, calm, keyed, planned⟩

end Operation

theorem Zone.Asks.concerns {z : Zone} {request : Request} (asks : z.Asks request) :
    request.Concerns z.name := by
  cases asks with
  | read => exact .get
  | delete => exact .delete
  | create => exact .post (Record.get?_fields_zone _)
  | update => exact .put ((get?_fields_toUpdate (by decide)).trans (Record.get?_fields_zone _))

namespace Operation.Concerns

variable {op : Operation α} {name : String} (concerns : op.Concerns name)
include concerns

theorem name_of_subject : op.subject.name = name := by
  cases op with
  | apply p => exact Plan.MadeFor.name_of_desired concerns
  | _ => exact concerns

theorem name_of_replaced {z : Zone} (replaced : op.replaced? = some z) : z.name = name := by
  cases op with
  | apply p => exact Plan.MadeFor.name_of_current concerns replaced
  | _ => cases replaced

theorem of_asks {request : Request} (asks : op.Asks request) : request.Concerns name := by
  cases asks with
  | subject asks =>
    rw [← concerns.name_of_subject]
    exact asks.concerns
  | replaced h =>
    rw [← concerns.name_of_replaced h]
    exact .delete

/-- An operation makes only requests that concern its name. -/
theorem confinedTo {names : Set String} (mem : name ∈ names) (ds : Diagnostics) (c : Cluster) :
    (op.perform ds).ConfinedTo names c := fun e made =>
  ⟨name, mem, concerns.of_asks (op.exchanges_asked Cluster.transport c ds e made)⟩

end Operation.Concerns

/-- Performed on a cluster, an operation reads and changes only the entry of a name: each zone
stays under its own name, those of other names stay as they are, and wherever the entry is the same,
the exchanges, the outcome and the entry afterwards are. -/
structure Operation.LocalTo (op : Operation α) (name : String) (ds : Diagnostics) (c : Cluster) :
    Prop where
  keyed : ((op.perform ds).run Cluster.transport c).2.Keyed
  others : ∀ other, other ≠ name →
    ((op.perform ds).run Cluster.transport c).2.zones.get? other = c.zones.get? other
  depends : ∀ c' : Cluster, c'.queued = [] → c'.zones.get? name = c.zones.get? name →
    (op.perform ds).exchanges Cluster.transport c' = (op.perform ds).exchanges Cluster.transport c ∧
      ((op.perform ds).run Cluster.transport c').1 = ((op.perform ds).run Cluster.transport c).1 ∧
      ((op.perform ds).run Cluster.transport c').2.zones.get? name =
        ((op.perform ds).run Cluster.transport c).2.zones.get? name

theorem Operation.Concerns.localTo {op : Operation α} {name : String} (concerns : op.Concerns name)
    (named : name ≠ "") (ds : Diagnostics) {c : Cluster} (calm : c.queued = [])
    (keyed : c.Keyed) : op.LocalTo name ds c := by
  have unnamed : "" ∉ ({name} : Set String) := fun h => named h.symm
  have confined := concerns.confinedTo (Set.mem_singleton name) ds c
  refine ⟨confined.keyed unnamed calm keyed, fun other ne => confined.frame unnamed calm ne,
    fun c' calm' same => ?_⟩
  have agree : c.AgreesOn {name} c' := by
    rintro _ rfl
    exact same.symm
  obtain ⟨exchanges, result, entries⟩ := confined.run_agrees unnamed calm calm' agree
  exact ⟨exchanges.symm, result.symm, (entries name rfl).symm⟩

/-! ## Clients -/

/-- A client: it performs operations on some names, one after another. It has to go on in this way
with whatever may come of an operation on a cluster. -/
inductive Procedure.WorksOn (names : Set String) : Procedure α → Prop where
  | done (a : α) : WorksOn names (.done a)
  | perform {β : Type} {op : Operation β} {ds : Diagnostics} {name : String}
    {next : Outcome β → Procedure α} (mem : name ∈ names) (concerns : op.Concerns name)
    (goesOn : ∀ c : Cluster, c.queued = [] → c.Keyed →
      WorksOn names (next ((op.perform ds).run Cluster.transport c).1)) :
    WorksOn names ((op.perform ds).bind next)

namespace Procedure.WorksOn

variable {names : Set String}

theorem confinedTo {p : Procedure α} (client : p.WorksOn names) (unnamed : "" ∉ names) {c : Cluster}
    (calm : c.queued = []) (keyed : c.Keyed) : p.ConfinedTo names c := by
  induction client generalizing c with
  | done a => exact List.forall_mem_nil _
  | @perform β op ds name next mem concerns _ ih =>
    -- after the operation each zone is still under its own name, so the client may go on
    have confined := concerns.confinedTo mem ds c
    exact Procedure.confinedTo_bind_iff.2 ⟨confined, ih c calm keyed
      (Procedure.queued_run _ calm) (confined.keyed unnamed calm keyed)⟩

/-- One operation is a client. -/
theorem single {op : Operation α} {name : String} (mem : name ∈ names)
    (concerns : op.Concerns name) (ds : Diagnostics) : (op.perform ds).WorksOn names := by
  rw [← Procedure.bind_done_right (op.perform ds)]
  exact perform mem concerns fun _ _ _ => done _

section

variable {p : Procedure α} {q : Procedure β} {names' : Set String} {c : Cluster}
  (client : p.WorksOn names) (client' : q.WorksOn names') (unnamed : "" ∉ names)
  (unnamed' : "" ∉ names') (disjoint : Disjoint names names') (calm : c.queued = [])
  (keyed : c.Keyed)
include client client' unnamed unnamed' disjoint calm keyed

/-- Clients on different names do not notice each other, however their calls are interleaved. -/
theorem sideBySide {both : Procedure (α × β)} (interleaves : p.Interleaves q both) :
    p.SideBySide q names names' c (both.run Cluster.transport c) :=
  interleaves.sideBySide disjoint unnamed unnamed' calm (client.confinedTo unnamed calm keyed)
    (client'.confinedTo unnamed' calm keyed)

theorem commutes : p.Commutes q c :=
  Procedure.commutes_of_sideBySide fun _ =>
    client.sideBySide client' unnamed unnamed' disjoint calm keyed

end

end Procedure.WorksOn

/-! ## Independence -/

namespace Cluster

/-- Where each zone is stored under its own name, an operation on a name reads and changes only the
entry of that name. So two operations on different names can be done in either order, and clients
on different names come to the same, and leave the same zones, however their calls are interleaved.
Only the order of the requests that the cluster has kept is another. -/
theorem names_independent {c : Cluster} (calm : c.queued = []) (keyed : c.Keyed) :
    (∀ {α : Type} (op : Operation α) (ds : Diagnostics) (name : String), name ≠ "" →
      op.Concerns name → op.LocalTo name ds c) ∧
    (∀ {α β : Type} (op : Operation α) (op' : Operation β) (ds ds' : Diagnostics)
      (name name' : String), name ≠ "" → name' ≠ "" → name ≠ name' →
      op.Concerns name → op'.Concerns name' → (op.perform ds).Commutes (op'.perform ds') c) ∧
    ∀ {α β : Type} (p : Procedure α) (q : Procedure β) (names names' : Set String),
      "" ∉ names → "" ∉ names' → Disjoint names names' → p.WorksOn names → q.WorksOn names' →
      p.Commutes q c ∧ ∀ both, p.Interleaves q both →
        p.SideBySide q names names' c (both.run Cluster.transport c) ∧
          (both.run Cluster.transport c).2.zones =
            (q.run Cluster.transport (p.run Cluster.transport c).2).2.zones := by
  refine ⟨fun op ds name named concerns => concerns.localTo named ds calm keyed,
    fun op op' ds ds' name name' named named' ne concerns concerns' => ?_,
    fun p q names names' unnamed unnamed' disjoint client client' => ⟨?_, fun both merged => ?_⟩⟩
  · have first : (op.perform ds).WorksOn {name} := .single (Set.mem_singleton _) concerns ds
    have second : (op'.perform ds').WorksOn {name'} :=
      .single (Set.mem_singleton _) concerns' ds'
    exact first.commutes second (fun h => named h.symm) (fun h => named' h.symm)
      (Set.disjoint_singleton.2 ne) calm keyed
  · exact client.commutes client' unnamed unnamed' disjoint calm keyed
  · have together := client.sideBySide client' unnamed unnamed' disjoint calm keyed merged
    have inOrder := client.sideBySide client' unnamed unnamed' disjoint calm keyed
      (.first_before p q)
    refine ⟨together, (together.zones_eq inOrder).trans ?_⟩
    rw [Procedure.run_bind, Procedure.run_map]

theorem keyed_singleton {name : String} {fields : Dict Json} (key : nameIn fields = name) :
    Keyed { zones := Dict.empty.insert name fields } := by
  intro other stored found
  rw [Dict.get?_insert] at found
  by_cases h : other = name
  · rw [if_pos h, Option.some.injEq] at found
    rw [← found, h, key]
  · rw [if_neg h] at found
    cases found

/-- One client replaces a zone while another adds one whose name is the escaped name of that. -/
theorem escaped_name_independent :
    let fields : Dict Json := .ofList [
      ("zone", .text "a/b"), ("type", .text "vlan"), ("bridge", .text "vmbr0")]
    let c : Cluster := { zones := Dict.empty.insert "a/b" fields }
    let slash : Zone := { name := "a/b", block := some (.simple {}) }
    let escaped : Zone := {
      name := "a%2Fb", ipam := some "pve", block := some (.vlan { bridge := some "vmbr1" }) }
    let replace : Procedure (Outcome Zone) :=
      ((Operation.plan slash).perform []).bind fun planned =>
        match planned.result with
        | some p => (Operation.apply p).perform planned.diagnostics
        | none => .done (.failure planned.diagnostics)
    let add := (Operation.create escaped).perform []
    let both := (Procedure.weave [true, false, true, false] replace add).run transport c
    Percent.encode slash.name = escaped.name ∧ c.Keyed ∧
      (Operation.plan slash).LocalTo slash.name [] c ∧
      ((Operation.plan slash).perform []).Commutes add c ∧
      replace.SideBySide add {slash.name} {escaped.name} c both ∧
      both.1.2.result = some escaped := by
  intro fields c slash escaped replace add both
  have keyed : c.Keyed := keyed_singleton (by decide)
  have named : slash.name ≠ "" := by decide
  have named' : escaped.name ≠ "" := by decide
  have ne : slash.name ≠ escaped.name := by decide
  have plans : (Operation.plan slash).Concerns slash.name := rfl
  have creates : (Operation.create escaped).Concerns escaped.name := rfl
  have replaces : replace.WorksOn {slash.name} := by
    refine .perform (Set.mem_singleton _) plans fun c' calm keyed' => ?_
    split
    · rename_i p planned
      exact .single (Set.mem_singleton _) (Operation.concerns_of_planned calm keyed' planned) _
    · exact .done _
  have adds : add.WorksOn {escaped.name} := .single (Set.mem_singleton _) creates []
  obtain ⟨isLocal, commute, clients⟩ := names_independent (c := c) rfl keyed
  have together : replace.SideBySide add {slash.name} {escaped.name} c both :=
    ((clients replace add {slash.name} {escaped.name} (fun h => named h.symm)
      (fun h => named' h.symm) (Set.disjoint_singleton.2 ne) replaces adds).2 _
      (Procedure.interleaves_weave [true, false, true, false] replace add)).1
  have alone : both.1.2 = (add.run transport c).1 := together.second.result
  clear_value both
  refine ⟨by decide, keyed, isLocal _ [] slash.name named plans,
    commute _ _ [] [] slash.name escaped.name named named' ne plans creates, together, ?_⟩
  have added := Zone.run_create (c := c) (z := escaped) rfl ⟨by decide, by decide⟩ (by decide) []
  have complete : escaped.withDefaults.pruned = escaped := by decide
  have performed : add = escaped.create [] := rfl
  rw [alone, performed]
  exact added.result.trans (congrArg some complete)

end Cluster

end SdnZones
