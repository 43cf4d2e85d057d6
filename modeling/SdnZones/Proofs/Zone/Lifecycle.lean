-- SUMMARY: What operations on zones give, and what a cluster stores after them.
import SdnZones.Proofs.Zone.Rules
import SdnZones.Proofs.Zone.Update
import SdnZones.Zone.Lifecycle

/-!
# Operations on a cluster

On a cluster without queued replies an operation that gets past its checks succeeds: it gives
what is read back and adds no error (`Zone.Reached`). There is one law for each operation,
`Zone.run_create`, `Zone.run_update`, `Zone.run_delete` and `Zone.run_plan`. What an update
leaves of the stored fields is in `Zone.update_effect`.
-/

namespace SdnZones

/-- A cluster stores fields under a name from which a zone is read. -/
def Cluster.Shows (c : Cluster) (name : String) (z : Zone) : Prop :=
  ∃ fields r, c.zones.get? name = some fields ∧ Record.ofJson (.ofDict fields) = .ok r ∧
    Zone.ofRecord? r = .ok z

namespace Zone

/-- An operation, begun with some diagnostics, gave a zone and no error, and the cluster has
these zones afterwards, shows this one, and has no replies queued. -/
structure Reached (ran : Outcome Zone × Cluster) (ds : Diagnostics) (z : Zone) (zones : Stored) :
    Prop where
  result : ran.1.result = some z
  diagnostics : ∃ added, ran.1.diagnostics = ds ++ added ∧ Diagnostics.hasError added = false
  zones : ran.2.zones = zones
  shows : ran.2.Shows z.name z
  calm : ran.2.queued = []

theorem converted_of_read {r : Record} {z : Zone} (h : ofRecord? r = .ok z) (ds : Diagnostics) :
    converted r ds = .success z (ds ++ r.strayCommas) := by
  rw [converted, h]

section

variable {c : Cluster} {z : Zone} (calm : c.queued = [])
include calm

/-! ## Reading back -/

theorem reached_readBack (named : z.name ≠ "") (shows : c.Shows z.name z)
    {ds added : Diagnostics} (noError : Diagnostics.hasError added = false) :
    Reached ((readBack z.name (ds ++ added)).run Cluster.transport c) ds z c.zones := by
  obtain ⟨fields, r, stored, decoded, read⟩ := shows
  have ran : (readBack z.name (ds ++ added)).run Cluster.transport c =
      (.success z (ds ++ added ++ r.strayCommas), c.after (.get (zonePath z.name)) c.zones) := by
    rw [readBack, Procedure.run_bind, Cluster.run_get_of_decoded calm named stored decoded]
    simp only [Procedure.run, converted_of_read read]
  rw [ran]
  refine ⟨rfl, ⟨added ++ r.strayCommas, List.append_assoc _ _ _, ?_⟩, rfl,
    ⟨fields, r, stored, decoded, read⟩, calm⟩
  rw [Diagnostics.hasError_append, noError, Record.hasError_strayCommas]
  rfl

/-! ## Writing -/

variable (accepted : z.Accepted)
include accepted

/-- A zone that is not there yet can be created. -/
theorem run_create (fresh : c.zones.get? z.name = none) (ds : Diagnostics) :
    Reached ((z.create ds).run Cluster.transport c) ds z.withDefaults.pruned
      (c.zones.insert z.name z.withDefaults.toRecord.fields) := by
  obtain ⟨b, hb⟩ := accepted.exists_block
  have written := Cluster.run_create calm (r := z.withDefaults.toRecord) fresh
  have read := ofRecord?_toRecord_of_sendable hb accepted.sendable
  rw [create]
  simp only [accepted.valid, accepted.sendable, Bool.false_eq_true, if_false]
  rw [Procedure.run_bind, written, List.append_assoc]
  refine reached_readBack (c := c.after _ _) (z := z.withDefaults.pruned) calm
    accepted.name_ne_empty ⟨_, _, ?_, Record.ofJson_fields _, read⟩ accepted.hasError_eq_false
  exact (Dict.get?_insert _ _ _ _).trans (if_pos rfl)

/-- A zone of the same kind can be updated. -/
theorem run_update {fields : Dict Json} {r : Record} {k : ZoneKind}
    (stored : c.zones.get? z.name = some fields) (decoded : Record.ofJson (.ofDict fields) = .ok r)
    (recordKind : r.kind = some k.name) (kind : z.kind = some k) (ds : Diagnostics) :
    Reached ((z.update ds).run Cluster.transport c) ds z.withDefaults.pruned
      (c.zones.insert z.name (Cluster.updated fields z.withDefaults.toUpdate.fields)) := by
  obtain ⟨b, hb⟩ := accepted.exists_block
  have untyped : z.withDefaults.toUpdate.fields.get? "type" = none := by
    rw [get?_fields_toUpdate (by decide), if_pos rfl]
  have written := Cluster.run_update calm accepted.name_ne_empty stored untyped
  obtain ⟨s, after, read⟩ := exists_record_updated decoded recordKind (kind_withDefaults.trans kind)
  rw [ofRecord?_toRecord_of_sendable hb accepted.sendable] at read
  rw [update]
  simp only [accepted.valid, accepted.sendable, Bool.false_eq_true, if_false]
  rw [Procedure.run_bind, name_withDefaults, written, List.append_assoc]
  refine reached_readBack (c := c.after _ _) (z := z.withDefaults.pruned) calm
    accepted.name_ne_empty ⟨_, s, ?_, after, read⟩ accepted.hasError_eq_false
  exact (Dict.get?_insert _ _ _ _).trans (if_pos rfl)

end

/-- An update of a zone that is stored with the same kind succeeds. The fields that the kind
manages are then those of the zone's record, without those that the zone leaves unset. All other
fields are as before, and so are the other zones. -/
theorem update_effect {c : Cluster} {z : Zone} {fields : Dict Json} {r : Record} {k : ZoneKind}
    (calm : c.queued = []) (stored : c.zones.get? z.name = some fields)
    (decoded : Record.ofJson (.ofDict fields) = .ok r) (recordKind : r.zoneKind = .ok k)
    (kind : z.kind = some k) (accepted : z.Accepted) (ds : Diagnostics) :
    let ran := (z.update ds).run Cluster.transport c
    ran.1.result = some z.withDefaults.pruned ∧
      (∃ added, ran.1.diagnostics = ds ++ added ∧ Diagnostics.hasError added = false) ∧
      (∃ after, ran.2.zones.get? z.name = some after ∧
        ∀ key, key ≠ "" → after.get? key =
          if key ∈ "zone" :: (Attribute.common ++ k.attributes).map Attribute.wireName then
            z.withDefaults.toRecord.fields.get? key
          else fields.get? key) ∧
      ∀ name, name ≠ z.name → ran.2.zones.get? name = c.zones.get? name := by
  intro ran
  have recordKind := Record.zoneKind_eq_ok_iff.1 recordKind
  have reached : Reached ran ds z.withDefaults.pruned
      (c.zones.insert z.name (Cluster.updated fields z.withDefaults.toUpdate.fields)) :=
    run_update calm accepted stored decoded recordKind kind ds
  have managed : z.withDefaults.managedNames =
      "zone" :: (Attribute.common ++ k.attributes).map Attribute.wireName := by
    rw [managedNames, managed_of_kind (kind_withDefaults.trans kind)]
  refine ⟨reached.result, reached.diagnostics,
    ⟨Cluster.updated fields z.withDefaults.toUpdate.fields, ?_, fun key filled => ?_⟩,
    fun name other => ?_⟩
  · rw [reached.zones, Dict.get?_insert, if_pos rfl]
  · rw [get?_updated_toUpdate z.withDefaults fields filled, managed]
  · rw [reached.zones, Dict.get?_insert, if_neg other]

/-- A zone that was given other fields than those of its kind keeps them. -/
theorem update_keeps_unmanaged :
    let fields : Dict Json := .ofList [
      ("zone", .text "vlan1"), ("type", .text "vlan"), ("bridge", .text "vmbr0"),
      ("mtu", .int 1400), ("tag", .text "7"), ("pending", .bool true)]
    let c : Cluster := { zones := .ofList [("vlan1", fields)] }
    let z : Zone := {
      name := "vlan1"
      nodes := some ["pve1", "pve2"]
      block := some (.vlan { bridge := some "vmbr1" }) }
    (∃ r, Record.ofJson (.ofDict fields) = .ok r ∧ r.zoneKind = .ok .vlan) ∧ z.Accepted ∧
      ∃ after, ((z.update []).run Cluster.transport c).2.zones.get? "vlan1" = some after ∧
        after.get? "bridge" = some (.text "vmbr1") ∧ after.get? "mtu" = none ∧
        after.get? "nodes" = some (.text "pve1,pve2") ∧ after.get? "tag" = some (.text "7") ∧
        after.get? "pending" = some (.bool true) ∧ after.get? "type" = some (.text "vlan") := by
  intro fields c z
  have stored : c.zones.get? z.name = some fields := by decide
  have decoded : ∃ r, Record.ofJson (.ofDict fields) = .ok r ∧ r.zoneKind = .ok .vlan :=
    ⟨_, rfl, rfl⟩
  have accepted : z.Accepted := ⟨by decide, by decide⟩
  refine ⟨decoded, accepted, ?_⟩
  obtain ⟨r, decoded, recordKind⟩ := decoded
  obtain ⟨_, _, ⟨after, found, held⟩, _⟩ :=
    update_effect rfl stored decoded recordKind rfl accepted []
  refine ⟨after, found, ?_, ?_, ?_, ?_, ?_, ?_⟩
  · exact (held "bridge" (by decide)).trans (by decide)
  · exact (held "mtu" (by decide)).trans (by decide)
  · exact (held "nodes" (by decide)).trans (by decide)
  · exact (held "tag" (by decide)).trans (by decide)
  · exact (held "pending" (by decide)).trans (by decide)
  · exact (held "type" (by decide)).trans (by decide)

/-! ## Deleting -/

/-- A zone that is there can be deleted. -/
theorem run_delete {c : Cluster} {z : Zone} {fields : Dict Json} (calm : c.queued = [])
    (named : z.name ≠ "") (stored : c.zones.get? z.name = some fields) (ds : Diagnostics) :
    (z.delete ds).run Cluster.transport c =
      (ds, c.after (.delete (zonePath z.name)) (c.zones.erase z.name)) := by
  rw [delete, Procedure.run_bind, Cluster.run_delete calm named stored]
  rfl

/-! ## Planning -/

section

variable {c : Cluster} {z : Zone} (calm : c.queued = [])
  (valid : Diagnostics.hasError z.withDefaults.validate = false)
include calm valid

theorem run_plan_of_none (absent : c.zones.get? z.name = none) (ds : Diagnostics) :
    (z.plan ds).run Cluster.transport c =
      ((Plan.toCreate z.withDefaults).checked (ds ++ z.withDefaults.validate),
        c.after (.get (zonePath z.name)) c.zones) := by
  have named : z.withDefaults.name ≠ "" := name_ne_empty_of_valid valid
  have got := Cluster.run_get_of_none calm named absent
  rw [plan]
  simp only [valid, Bool.false_eq_true, if_false]
  rw [Procedure.run_bind, got]
  rfl

theorem run_plan_of_shows {current : Zone} (shows : c.Shows z.name current) (ds : Diagnostics) :
    ∃ warnings, (z.plan ds).run Cluster.transport c =
      ((Plan.toChange current z.withDefaults).checked (ds ++ z.withDefaults.validate ++ warnings),
        c.after (.get (zonePath z.name)) c.zones) := by
  obtain ⟨fields, r, stored, decoded, read⟩ := shows
  have named : z.withDefaults.name ≠ "" := name_ne_empty_of_valid valid
  have got := Cluster.run_get_of_decoded calm named stored decoded
  refine ⟨r.strayCommas, ?_⟩
  rw [plan]
  simp only [valid, Bool.false_eq_true, if_false]
  rw [Procedure.run_bind, got]
  simp only [converted_of_read read]
  rfl

/-- There is no plan for a zone that is there but cannot be read. -/
theorem result_run_plan_of_unreadable {fields : Dict Json}
    (stored : c.zones.get? z.name = some fields)
    (unreadable : ¬ ∃ current, c.Shows z.name current) (ds : Diagnostics) :
    ((z.plan ds).run Cluster.transport c).1.result = none := by
  have named : z.withDefaults.name ≠ "" := name_ne_empty_of_valid valid
  have got := Cluster.run_get_of_some calm named stored
  rw [plan]
  simp only [valid, Bool.false_eq_true, if_false]
  rw [Procedure.run_bind, got]
  cases gotten : Zones.gotten (.object [("data", Cluster.shown fields)]) with
  | error e =>
    simp only [Zones.isNotFound_of_gotten gotten, Bool.false_eq_true, if_false]
    rfl
  | ok r =>
    have decoded := Cluster.gotten_shown.1 gotten
    cases read : ofRecord? r with
    | error problem =>
      simp only [converted, read]
      rfl
    | ok current => exact absurd ⟨current, fields, r, stored, decoded, read⟩ unreadable

end

theorem checked_eq_some_iff {p q : Plan} {ds : Diagnostics} :
    (p.checked ds).result = some q ↔
      p = q ∧ Diagnostics.hasError ((p.current.map Zone.unsendable).getD []) = false ∧
        Diagnostics.hasError p.desired.unsendable = false := by
  simp only [Plan.checked, Diagnostics.hasError_append]
  cases Diagnostics.hasError ((p.current.map Zone.unsendable).getD []) with
  | true => simp [Outcome.failure]
  | false =>
    cases Diagnostics.hasError p.desired.unsendable with
    | true => simp [Outcome.failure]
    | false => simp [Outcome.success]

/-- If both zones that it compares can be sent, a plan is to change the one that is there. -/
theorem planned_of_shows {c : Cluster} {z current : Zone} (calm : c.queued = [])
    (accepted : z.Accepted) (shows : c.Shows z.name current)
    (sendable : Diagnostics.hasError current.unsendable = false) (ds : Diagnostics) :
    ((z.plan ds).run Cluster.transport c).1.result = some (.toChange current z.withDefaults) := by
  obtain ⟨_, ran⟩ := run_plan_of_shows calm accepted.valid shows ds
  rw [ran]
  exact checked_eq_some_iff.2 ⟨rfl, sendable, accepted.sendable⟩

/-- A plan is made only for a zone that breaks no rule and can be sent; it is to create the
zone if it is not there, and to change what the cluster shows of it if it is. -/
theorem run_plan {c : Cluster} {z : Zone} (calm : c.queued = []) {ds : Diagnostics} {p : Plan}
    (planned : ((z.plan ds).run Cluster.transport c).1.result = some p) :
    z.Accepted ∧
      ((z.plan ds).run Cluster.transport c).2 = c.after (.get (zonePath z.name)) c.zones ∧
      ((c.zones.get? z.name = none ∧ p = Plan.toCreate z.withDefaults) ∨
        ∃ current, c.Shows z.name current ∧ p = Plan.toChange current z.withDefaults) := by
  have valid : Diagnostics.hasError z.withDefaults.validate = false := by
    cases invalid : Diagnostics.hasError z.withDefaults.validate with
    | false => rfl
    | true =>
      rw [plan] at planned
      simp only [invalid, if_true] at planned
      cases planned
  cases stored : c.zones.get? z.name with
  | none =>
    rw [run_plan_of_none calm valid stored] at planned ⊢
    obtain ⟨rfl, _, sendable⟩ := checked_eq_some_iff.1 planned
    exact ⟨⟨valid, sendable⟩, rfl, .inl ⟨rfl, rfl⟩⟩
  | some fields =>
    by_cases shows : ∃ current, c.Shows z.name current
    · obtain ⟨current, shows⟩ := shows
      obtain ⟨warnings, ran⟩ := run_plan_of_shows calm valid shows ds
      rw [ran] at planned ⊢
      obtain ⟨rfl, _, sendable⟩ := checked_eq_some_iff.1 planned
      exact ⟨⟨valid, sendable⟩, rfl, .inr ⟨current, shows, rfl⟩⟩
    · rw [result_run_plan_of_unreadable calm valid stored shows] at planned
      cases planned

end Zone

end SdnZones
