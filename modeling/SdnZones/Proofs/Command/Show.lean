-- SUMMARY: What is shown of a zone can be applied again and does no harm.
import SdnZones.Proofs.Command.Zones
import SdnZones.Proofs.Document.Text
import SdnZones.Proofs.Zone.Defaults

/-!
# Showing and applying again

A zone that is shown as JSON is shown as a document of just that zone, whatever else its record
holds (`Command.run_showZone`). To plan it again means to compare the zone with itself, so nothing
is changed but what defaults fill in (`Command.show_apply_harmless`).
-/

namespace SdnZones

variable {σ : Type} {t : Transport σ} {s : σ} {name : String} {r : Record} {z : Zone}

/-- Whoever answers gives this record for a zone. -/
def Transport.Returns (t : Transport σ) (s : σ) (name : String) (r : Record) : Prop :=
  ((Zones.get name).run t s).1 = .ok r

/-- Planning a zone that is there compares it with what was read. -/
theorem Zone.run_plan_of_returns {current : Zone}
    (valid : Diagnostics.hasError z.withDefaults.validate = false)
    (returned : t.Returns s z.name r) (read : ofRecord? r = .ok current) (ds : Diagnostics) :
    ((z.plan ds).run t s).1 = (Plan.toChange current z.withDefaults).checked
      (ds ++ z.withDefaults.validate ++ r.strayCommas) := by
  have returned : ((Zones.get z.withDefaults.name).run t s).1 = .ok r := returned
  rw [plan]
  simp only [valid, Bool.false_eq_true, if_false]
  rw [Procedure.run_bind, returned]
  simp only [converted_of_read read]
  rfl

/-- Planning a zone as it was read finds only what defaults fill in. -/
theorem Zone.plan_of_returns {k : ZoneKind} (read : ofRecord? r = .ok z)
    (kind : r.kind = some k.name) (valid : Diagnostics.hasError z.withDefaults.validate = false)
    (returned : t.Returns s z.name r) (ds : Diagnostics) :
    ∃ p, ((z.plan ds).run t s).1.result = some p ∧ p.current = some z ∧
      p.desired = z.withDefaults ∧ p.changes = r.defaulted k ∧
      p.action = if r.defaulted k = [] then .nothing else .update := by
  have changes := changes_withDefaults read kind
  have sendable : z.unsendable = [] := (readFrom_of_ok read).unsendable_eq_nil
  refine ⟨Plan.toChange z z.withDefaults, ?_, rfl, rfl, changes, ?_⟩
  · rw [run_plan_of_returns valid returned read ds, checked_eq_some_iff]
    refine ⟨rfl, ?_, ?_⟩
    · exact congrArg Diagnostics.hasError sendable
    · exact congrArg Diagnostics.hasError (z.unsendable_withDefaults.trans sendable)
  · rcases action_toChange z z.withDefaults with
      ⟨reason, replaced, _⟩ | ⟨_, ⟨same, action⟩ | ⟨differ, action⟩⟩
    · rw [replaceReason?_withDefaults] at replaced
      cases replaced
    · rw [action, if_pos (changes.symm.trans same)]
    · rw [action, if_neg (changes ▸ differ)]

namespace Command

/-- A record is shown as JSON by the document of its zone, with warnings aside. -/
theorem result_renderShow (read : Zone.ofRecord? r = .ok z) :
    (renderShow r .json).result = .ok z.toJson.pretty ∧ (renderShow r .json).out = "" := by
  have reported := Diagnostics.result_report_of_noError r.hasError_strayCommas
  simp only [renderShow, read, reported]
  exact ⟨rfl, rfl⟩

/-- A zone is shown as JSON by a line with the document of what was read. -/
theorem run_showZone (returned : t.Returns s name r) (read : Zone.ofRecord? r = .ok z) :
    ((showZone name .json).run t s).1.result = .ok () ∧
      ((showZone name .json).run t s).1.out = z.toJson.pretty ++ "\n" := by
  obtain ⟨result, out⟩ := result_renderShow read
  have returned : ((Zones.get name).run t s).1 = .ok r := returned
  rw [showZone, Procedure.run_bind, returned]
  simp only [result]
  refine ⟨rfl, ?_⟩
  show (renderShow r .json).out ++ (z.toJson.pretty ++ "\n") = _
  rw [out, String.empty_append]

/-- A zone of a kind that can be configured is shown as a document of what its record says. As long
as the same record is returned, planning this document changes nothing but what defaults fill in,
if its zone is valid with them. -/
theorem show_apply_harmless {σ : Type} (t : Transport σ) (s : σ) (name : String) (r : Record)
    (k : ZoneKind) (configurable : k ∈ ZoneKind.configurable) (kind : r.kind = some k.name)
    (named : r.zone = name) (returned : t.Returns s name r) (path : String)
    (json : Document.IsJsonPath path) :
    let shown := ((showZone name .json).run t s).1
    shown.result = .ok () ∧ ∃ (z : Zone) (text : String), Zone.ofRecord? r = .ok z ∧
      (renderShow r .json).result = .ok text ∧ shown.out = text ++ "\n" ∧
      Document.ofFile path (some (Utf8.bytesOf text)) = .ok z ∧
      Document.ofFile path (some (Utf8.bytesOf shown.out)) = .ok z ∧
      (Diagnostics.hasError z.withDefaults.validate = false →
        ∀ {τ : Type} (t' : Transport τ) (s' : τ), t'.Returns s' name r → ∀ ds : Diagnostics,
          ∃ p, ((z.plan ds).run t' s').1.result = some p ∧ p.current = some z ∧
            p.desired = z.withDefaults ∧ p.changes = r.defaulted k ∧
            p.action = if r.defaulted k = [] then .nothing else .update) := by
  obtain ⟨z, read, _⟩ := (Zone.record_projection r).2.1 k configurable kind
  obtain ⟨result, out⟩ := run_showZone returned read
  obtain ⟨bare, line⟩ := Document.ofFile_pretty json z
  have zone : z.name = name := (Zone.readFrom_of_ok read).name.trans named
  refine ⟨result, z, z.toJson.pretty, read, (result_renderShow read).1, out, bare, ?_,
    fun valid _ t' s' again ds => ?_⟩
  · rw [out]
    exact line
  · rw [← zone] at again
    exact Zone.plan_of_returns read kind valid again ds

/-- Neither the empty element of a list nor the peers of another kind are shown, and planning what
is shown adds both defaults. -/
theorem qinq_show_apply_harmless :
    let fields : Dict Json := .ofList [
      ("zone", .text "zone1"), ("type", .text "qinq"), ("bridge", .text "vmbr0"),
      ("tag", .text "100"), ("nodes", .text ",pve1"), ("peers", .text "10.0.0.1"),
      ("pending", .bool true)]
    let c : Cluster := { zones := Dict.empty.insert "zone1" fields }
    let z : Zone := {
      name := "zone1"
      nodes := some ["pve1"]
      block := some (.qinq { bridge := some "vmbr0", tag := some 100 }) }
    let shown := ((showZone "zone1" .json).run Cluster.transport c).1
    shown.result = .ok () ∧
      Document.ofFile "zone1.json" (some (Utf8.bytesOf shown.out)) = .ok z ∧
      Diagnostics.hasError z.withDefaults.validate = false ∧
      ∃ p, ((z.plan []).run Cluster.transport c).1.result = some p ∧ p.action = .update ∧
        p.changes = [⟨"ipam", none, some "pve"⟩, ⟨"vlan-protocol", none, some "802.1q"⟩] := by
  intro fields c z shown
  let r : Record := {
    zone := "zone1"
    kind := some "qinq"
    value := fun
      | .bridge => some "vmbr0"
      | .tag => some (100 : Int32)
      | .nodes => some ",pve1"
      | .peers => some "10.0.0.1"
      | _ => none }
  have decoded : Record.ofJson (.ofDict fields) = .ok r :=
    Record.ofJson_ofDict_eq_ok_iff.2 ⟨by decide, by decide, fun a => by cases a <;> decide⟩
  have returned : Cluster.transport.Returns c "zone1" r :=
    congrArg Prod.fst (Cluster.run_get_of_decoded rfl (by decide) (by decide) decoded)
  obtain ⟨result, found, text, read, _, _, _, loaded, planned⟩ := show_apply_harmless
    Cluster.transport c "zone1" r .qinq (by decide) rfl rfl returned "zone1.json" (by decide)
  obtain rfl : found = z := Except.ok.inj (read.symm.trans (by decide))
  have valid : Diagnostics.hasError z.withDefaults.validate = false := by decide
  obtain ⟨p, planned, _, _, changes, action⟩ := planned valid Cluster.transport c returned []
  exact ⟨result, loaded, valid, p, planned, action, changes⟩

end Command

end SdnZones
