-- SUMMARY: The changes between zones are a patch, and an update carries each of them out.
import SdnZones.Proofs.Zone.Convergence
import SdnZones.Proofs.Zone.Partition
import SdnZones.Proofs.Zone.Replacement

/-!
# Changes as a patch

What is shown of two zones differs exactly in the fields that are listed as changes
(`FieldChange.mem_between_iff`), so carrying the changes out one after the other leads from one to
the other (`FieldChange.patch_between`). The update of a plan is made without a look at the
changes, but it carries out each of them and leads to the same record (`Zone.changes_patch`).
-/

namespace SdnZones

/-! ## Names of fields -/

namespace Record

/-- The names of fields ascend as their bytes do. -/
theorem bytesOf_lt_bytesOf {a b : String} (ha : a ∈ wireNames) (hb : b ∈ wireNames) (h : a < b) :
    Utf8.bytesOf a < Utf8.bytesOf b := by
  have all : ∀ a ∈ wireNames, ∀ b ∈ wireNames, a < b → Utf8.bytesOf a < Utf8.bytesOf b := by
    decide +kernel
  exact all a ha b hb h

/-- Fields of records of which the same is shown are the same. -/
theorem get?_fields_eq_of_shown {r s : Record} {name : String}
    (h : (r.fields.get? name).map Json.shown = (s.fields.get? name).map Json.shown) :
    r.fields.get? name = s.fields.get? name := by
  by_cases known : name ∈ wireNames
  · rcases mem_wireNames_iff.1 known with rfl | rfl | ⟨a, rfl⟩
    · rw [get?_fields_zone, get?_fields_zone] at h ⊢
      exact congrArg (Option.map Json.text) h
    · rw [get?_fields_type, get?_fields_type] at h ⊢
      rw [ValueKind.eq_of_shown (k := .text) h]
    · rw [get?_fields_wireName, get?_fields_wireName] at h ⊢
      rw [ValueKind.eq_of_shown h]
  · rw [get?_fields_of_unknown r known, get?_fields_of_unknown s known]

end Record

/-! ## Patches -/

namespace FieldChange

/-- What is shown of fields after a change. -/
def applyTo (c : FieldChange) (shown : Dict String) : Dict String :=
  match c.after with
  | some value => shown.insert c.field value
  | none => shown.erase c.field

/-- What is shown of fields after several changes. -/
def patch (shown : Dict String) (changes : List FieldChange) : Dict String :=
  changes.foldl (fun shown c => c.applyTo shown) shown

theorem get?_applyTo (c : FieldChange) (shown : Dict String) (name : String) :
    (c.applyTo shown).get? name = if name = c.field then c.after else shown.get? name := by
  rw [applyTo]
  cases h : c.after with
  | none => exact Dict.get?_erase _ _ _
  | some value => exact Dict.get?_insert _ _ _ _

theorem get?_patch_of_not_mem {shown : Dict String} {changes : List FieldChange} {name : String}
    (h : ∀ c ∈ changes, c.field ≠ name) : (patch shown changes).get? name = shown.get? name := by
  induction changes generalizing shown with
  | nil => rfl
  | cons c changes ih =>
    obtain ⟨other, others⟩ := List.forall_mem_cons.1 h
    rw [patch, List.foldl_cons]
    exact (ih others).trans ((get?_applyTo c shown name).trans (if_neg other.symm))

theorem get?_patch_of_mem {shown : Dict String} {changes : List FieldChange} {c : FieldChange}
    (distinct : (changes.map (·.field)).Nodup) (h : c ∈ changes) :
    (patch shown changes).get? c.field = c.after := by
  induction changes generalizing shown with
  | nil => cases h
  | cons first changes ih =>
    obtain ⟨fresh, distinct⟩ := List.nodup_cons.1 distinct
    rw [patch, List.foldl_cons]
    rcases List.mem_cons.1 h with rfl | h
    · -- No later change touches the field again.
      have others : ∀ d ∈ changes, d.field ≠ c.field := fun d hd same =>
        fresh (List.mem_map.2 ⟨d, hd, same⟩)
      exact (get?_patch_of_not_mem others).trans ((get?_applyTo c shown c.field).trans (if_pos rfl))
    · exact ih distinct h

/-- The change of a field that is shown differently. -/
def change? (before after : Dict Json) (field : String) : Option FieldChange :=
  if (before.get? field).map Json.shown = (after.get? field).map Json.shown then none
  else some ⟨field, (before.get? field).map Json.shown, (after.get? field).map Json.shown⟩

theorem between_eq_filterMap (before after : Dict Json) :
    between before after =
      (Dict.ofList (before.toList ++ after.toList)).names.filterMap (change? before after) := rfl

theorem change?_eq_some_iff {before after : Dict Json} {field : String} {c : FieldChange} :
    change? before after field = some c ↔
      c.field = field ∧ c.before = (before.get? field).map Json.shown ∧
        c.after = (after.get? field).map Json.shown ∧ c.before ≠ c.after := by
  rw [change?]
  constructor
  · intro h
    split at h
    · cases h
    · cases h
      exact ⟨rfl, rfl, rfl, ‹_›⟩
  · rintro ⟨rfl, old, new, differ⟩
    rw [old, new] at differ
    rw [if_neg differ, ← old, ← new]

/-- A change is listed exactly if it tells of a field what was shown, what is shown, and that this
is not the same. -/
theorem mem_between_iff {before after : Dict Json} {c : FieldChange} :
    c ∈ between before after ↔
      c.before = (before.get? c.field).map Json.shown ∧
        c.after = (after.get? c.field).map Json.shown ∧ c.before ≠ c.after := by
  rw [between_eq_filterMap, List.mem_filterMap]
  constructor
  · rintro ⟨field, _, changed⟩
    obtain ⟨rfl, changed⟩ := change?_eq_some_iff.1 changed
    exact changed
  · intro changed
    refine ⟨c.field, ?_, change?_eq_some_iff.2 ⟨rfl, changed⟩⟩
    obtain ⟨old, new, differ⟩ := changed
    rw [Dict.mem_names_ofList, List.map_append, List.mem_append]
    by_contra unnamed
    obtain ⟨unnamedBefore, unnamedAfter⟩ := not_or.1 unnamed
    have absentBefore : before.get? c.field = none := Dict.find?_eq_none_iff.2 unnamedBefore
    have absentAfter : after.get? c.field = none := Dict.find?_eq_none_iff.2 unnamedAfter
    exact differ (by rw [old, new, absentBefore, absentAfter])

theorem pairwise_between (before after : Dict Json) :
    (between before after).Pairwise fun a b => a.field < b.field := by
  rw [between_eq_filterMap]
  refine List.Pairwise.filterMap _ (fun a b lt c hc d hd => ?_)
    (List.pairwise_map.2 (Dict.ofList (before.toList ++ after.toList)).ascending)
  rw [(change?_eq_some_iff.1 hc).1, (change?_eq_some_iff.1 hd).1]
  exact lt

theorem nodup_between (before after : Dict Json) :
    ((between before after).map (·.field)).Nodup :=
  List.pairwise_map.2 ((pairwise_between before after).imp String.ne_of_lt)

/-- The changes lead from what was shown to what is shown. -/
theorem patch_between (before after : Dict Json) :
    patch (before.map Json.shown) (between before after) = after.map Json.shown := by
  refine Dict.ext_get? fun name => ?_
  rw [Dict.get?_map]
  by_cases changed : ∃ c ∈ between before after, c.field = name
  · obtain ⟨c, hc, rfl⟩ := changed
    rw [get?_patch_of_mem (nodup_between before after) hc]
    exact (mem_between_iff.1 hc).2.1
  · have kept : ∀ c ∈ between before after, c.field ≠ name := fun c hc same => changed ⟨c, hc, same⟩
    rw [get?_patch_of_not_mem kept, Dict.get?_map]
    by_contra differ
    exact changed ⟨⟨name, _, _⟩, mem_between_iff.2 ⟨rfl, rfl, differ⟩, rfl⟩

/-- Changes that lead from fields to others: in the order of the bytes of their names, each of a
field that is shown differently, and none only if there is nothing to be done. -/
structure Patches (changes : List FieldChange) (before after : Dict Json) : Prop where
  ascending : changes.Pairwise fun a b => Utf8.bytesOf a.field < Utf8.bytesOf b.field
  shown : ∀ c ∈ changes, c.before = (before.get? c.field).map Json.shown ∧
    c.after = (after.get? c.field).map Json.shown
  differ : ∀ c ∈ changes, c.before ≠ c.after ∧ ¬ (c.before = none ∧ c.after = none)
  result : patch (before.map Json.shown) changes = after.map Json.shown
  nothing : changes = [] ↔ before = after
  /-- Nothing is hidden by showing only the texts of values. -/
  revealed : ∀ name, (before.get? name).map Json.shown = (after.get? name).map Json.shown →
    before.get? name = after.get? name

/-- Whether an update carries a change out: it sets the field to what is shown then, or clears
it. -/
def CarriedBy (c : FieldChange) (u : UpdateRequest) : Prop :=
  match c.after with
  | some value => c.field ∈ u.setFields ∧ (u.fields.get? c.field).map Json.shown = some value
  | none => c.field ∈ u.deletedFields

end FieldChange

theorem ZoneKind.name_ne_none (k : ZoneKind) : k.name ≠ "none" := by cases k <;> decide

namespace Zone

variable {current desired : Zone}

/-! ## Changes of zones -/

theorem mem_wireNames_of_mem_changes {current : Option Zone} {c : FieldChange}
    (h : c ∈ changes current desired) : c.field ∈ Record.wireNames := by
  by_contra unknown
  obtain ⟨old, new, differ⟩ := FieldChange.mem_between_iff.1 h
  have absentAfter : desired.toRecord.fields.get? c.field = none :=
    desired.toRecord.get?_fields_of_unknown unknown
  have absentBefore : (fieldsOf current).get? c.field = none := by
    cases current with
    | none => rfl
    | some z => exact z.toRecord.get?_fields_of_unknown unknown
  exact differ (by rw [old, new, absentBefore, absentAfter])

theorem get?_fieldsOf_eq_of_shown {current : Option Zone} {name : String}
    (h : ((fieldsOf current).get? name).map Json.shown =
      (desired.toRecord.fields.get? name).map Json.shown) :
    (fieldsOf current).get? name = desired.toRecord.fields.get? name := by
  cases current with
  | none => exact (Option.map_eq_none_iff.1 h.symm).symm
  | some z => exact Record.get?_fields_eq_of_shown h

/-- The changes between zones are a patch of what is shown of their records. -/
theorem patches_changes (current : Option Zone) (desired : Zone) :
    FieldChange.Patches (changes current desired) (fieldsOf current)
      desired.toRecord.fields where
  ascending := by
    refine List.Pairwise.imp_of_mem (fun ha hb lt => ?_)
      (FieldChange.pairwise_between (fieldsOf current) desired.toRecord.fields)
    exact Record.bytesOf_lt_bytesOf (mem_wireNames_of_mem_changes ha)
      (mem_wireNames_of_mem_changes hb) lt
  shown := fun _ hc =>
    have ⟨old, new, _⟩ := FieldChange.mem_between_iff.1 hc
    ⟨old, new⟩
  differ := fun _ hc =>
    have ⟨_, _, differ⟩ := FieldChange.mem_between_iff.1 hc
    ⟨differ, fun absent => differ (absent.1.trans absent.2.symm)⟩
  result := FieldChange.patch_between _ _
  nothing := by
    rw [changes, FieldChange.between_eq_nil_iff]
    exact ⟨fun same => Dict.ext_get? fun name => get?_fieldsOf_eq_of_shown (same name),
      fun same name => by rw [same]⟩
  revealed := fun _ same => get?_fieldsOf_eq_of_shown same

/-! ## Updates -/

/-- What is changed in place keeps its name and its kind. -/
theorem kept_of_inPlace {b : Block} (hb : desired.block = some b)
    (inPlace : replaceReason? current desired = none) :
    current.name = desired.name ∧ current.kind = desired.kind := by
  obtain ⟨name, blockName⟩ := replaceReason?_eq_none_iff.1 inPlace
  have kind : desired.kind = some b.kind := by rw [Zone.kind, hb, Option.map_some]
  have populated : current.block ≠ none := by
    intro bare
    have own : desired.blockName = b.kind.name := by simp [Zone.blockName, hb, Block.name]
    have none : current.blockName = "none" := by simp [Zone.blockName, bare]
    rw [own, none] at blockName
    exact b.kind.name_ne_none blockName.symm
  exact ⟨name, by rw [kind, kind_of_blockName kind populated blockName.symm]⟩

section

variable (kind : current.kind = desired.kind)
include kind

theorem managedNames_eq : current.managedNames = desired.managedNames := by
  rw [managedNames, managedNames, managed, managed, kind]

theorem kind_toRecord_eq : current.toRecord.kind = desired.toRecord.kind := by
  have name : ∀ z : Zone, z.toRecord.kind = z.kind.map ZoneKind.name := by
    intro z
    cases h : z.block <;> simp [toRecord, Zone.kind, h]
  rw [name, name, kind]

/-- The update of a zone makes the record of one of the same kind to its own. -/
theorem updated_fields_toRecord :
    Cluster.updated current.toRecord.fields desired.toUpdate.fields = desired.toRecord.fields := by
  refine Dict.ext_get? fun key => ?_
  by_cases filled : key = ""
  · have unnamed : ∀ r : Record, r.fields.get? "" = none := fun r =>
      r.get?_fields_of_unknown (by decide)
    have unsent : desired.toUpdate.fields.get? "" = none := by
      rw [get?_fields_toUpdate (by decide), if_neg (by decide), unnamed]
    rw [filled, Cluster.get?_updated, Dict.get?_erase, if_neg (by decide), unsent, unnamed, unnamed]
    exact ite_self _
  · rw [get?_updated_toUpdate desired current.toRecord.fields filled]
    by_cases managed : key ∈ desired.managedNames
    · rw [if_pos managed]
    · rw [if_neg managed]
      by_cases type : key = "type"
      · rw [type, Record.get?_fields_type, Record.get?_fields_type, kind_toRecord_eq kind]
      · rw [get?_fields_toRecord_eq_none managed type]
        rw [← managedNames_eq kind] at managed
        exact get?_fields_toRecord_eq_none managed type

/-- A change between zones of the same name and kind is one of a managed field. -/
theorem managed_of_mem_changes (name : current.name = desired.name) {c : FieldChange}
    (h : c ∈ changes (some current) desired) :
    c.field ∈ desired.managed.map Attribute.wireName := by
  obtain ⟨old, new, differ⟩ := FieldChange.mem_between_iff.1 h
  have kept : ∀ field, current.toRecord.fields.get? field = desired.toRecord.fields.get? field →
      c.field ≠ field := by
    rintro field same rfl
    exact differ (by rw [old, new, fieldsOf, same])
  have zone : c.field ≠ "zone" := kept "zone" (by
    rw [Record.get?_fields_zone, Record.get?_fields_zone]
    exact congrArg (fun n => some (Json.text n)) name)
  have type : c.field ≠ "type" := kept "type" (by
    rw [Record.get?_fields_type, Record.get?_fields_type, kind_toRecord_eq kind])
  by_contra unmanaged
  have unmanaged : c.field ∉ desired.managedNames := by
    rw [managedNames, List.mem_cons, not_or]
    exact ⟨zone, unmanaged⟩
  refine kept c.field ?_ rfl
  rw [get?_fields_toRecord_eq_none unmanaged type]
  rw [← managedNames_eq kind] at unmanaged
  exact get?_fields_toRecord_eq_none unmanaged type

/-- The update of a zone carries out every change to it from a zone of the same name and kind. -/
theorem carriedBy_toUpdate (name : current.name = desired.name) {c : FieldChange}
    (h : c ∈ changes (some current) desired) :
    c.CarriedBy desired.toUpdate := by
  obtain ⟨_, new, _⟩ := FieldChange.mem_between_iff.1 h
  have managed := managed_of_mem_changes kind name h
  obtain ⟨type, delete⟩ := ne_of_mem_managedNames (List.mem_cons_of_mem _ managed)
  rw [FieldChange.CarriedBy]
  cases after : c.after with
  | some value =>
    rw [after] at new
    have held : c.field ∈ desired.toRecord.fields.names := by
      rw [Dict.mem_names_iff]
      intro absent
      rw [absent] at new
      cases new
    refine ⟨(mem_setFields_toUpdate_iff desired c.field).2 ⟨managed, held⟩, ?_⟩
    rw [get?_fields_toUpdate delete, if_neg type]
    exact new.symm
  | none =>
    rw [after, eq_comm, Option.map_eq_none_iff] at new
    rw [deletedFields_toUpdate, List.mem_filter, decide_eq_true_iff, Dict.mem_names_iff]
    exact ⟨managed, not_not_intro new⟩

end

/-- The changes from any zone, or from none, are a patch to the desired one. If a plan is to update
a zone, its request carries out every change and makes the record of the zone that is there to the
one of the desired zone. -/
theorem changes_patch :
    (∀ (current : Option Zone) (desired : Zone),
      FieldChange.Patches (changes current desired) (fieldsOf current) desired.toRecord.fields) ∧
    ∀ {σ : Type} (t : Transport σ) (s : σ) (z : Zone) (ds : Diagnostics) (p : Plan),
      ((z.plan ds).run t s).1.result = some p → p.action = .update →
        ∃ current, p.current = some current ∧ p.changes = changes (some current) p.desired ∧
          (∀ c ∈ p.changes, c.CarriedBy p.desired.toUpdate) ∧
          Cluster.updated current.toRecord.fields p.desired.toUpdate.fields =
            p.desired.toRecord.fields := by
  refine ⟨patches_changes, fun t s z ds p planned updates => ?_⟩
  obtain ⟨accepted, rfl | ⟨current, rfl⟩⟩ := Plan.plannable_of_planned planned
  · cases updates
  · obtain ⟨b, hb⟩ := accepted.exists_block
    rcases action_toChange current z.withDefaults with
      ⟨reason, _, action⟩ | ⟨inPlace, ⟨_, action⟩ | _⟩
    · rw [action] at updates
      cases updates
    · rw [action] at updates
      cases updates
    · obtain ⟨name, kind⟩ := kept_of_inPlace hb inPlace
      exact ⟨current, rfl, rfl, fun c hc => carriedBy_toUpdate kind name hc,
        updated_fields_toRecord kind⟩

/-- A list is set, an integer is replaced, and what the desired zone leaves out is cleared. -/
theorem evpn_changes_patch :
    let fields : Dict Json := .ofList [
      ("zone", .text "evpn1"), ("type", .text "evpn"), ("ipam", .text "pve"),
      ("controller", .text "ctrl"), ("vrf-vxlan", .text "10000"),
      ("mac", .text "BC:24:11:00:00:01"),
      ("advertise-subnets", .bool true)]
    let c : Cluster := { zones := Dict.empty.insert "evpn1" fields }
    let z : Zone := {
      name := "evpn1"
      nodes := some ["pve1", "pve2"]
      block := some (.evpn { controller := some "ctrl", vrfVxlan := some 10001 }) }
    ∃ p current, ((z.plan []).run Cluster.transport c).1.result = some p ∧ p.action = .update ∧
      p.current = some current ∧
      p.changes = [
        ⟨"advertise-subnets", some "1", none⟩, ⟨"mac", some "BC:24:11:00:00:01", none⟩,
        ⟨"nodes", none, some "pve1,pve2"⟩, ⟨"vrf-vxlan", some "10000", some "10001"⟩] ∧
      (∀ c ∈ p.changes, c.CarriedBy p.desired.toUpdate) ∧
      Cluster.updated current.toRecord.fields p.desired.toUpdate.fields =
        p.desired.toRecord.fields := by
  intro fields c z
  let current : Zone := {
    name := "evpn1"
    ipam := some "pve"
    block := some (.evpn {
      controller := some "ctrl"
      vrfVxlan := some 10000
      mac := some "BC:24:11:00:00:01"
      advertiseSubnets := some true }) }
  have shows : c.Shows z.name current := ⟨fields, _, by decide, rfl, rfl⟩
  have planned := planned_of_shows rfl ⟨by decide, by decide⟩ shows (by decide) []
  have updates : (Plan.toChange current z.withDefaults).action = .update := by decide
  obtain ⟨found, known, changes, carried, updated⟩ :=
    changes_patch.2 Cluster.transport c z [] _ planned updates
  exact ⟨_, found, planned, updates, known, by decide, carried, updated⟩

end Zone

end SdnZones
