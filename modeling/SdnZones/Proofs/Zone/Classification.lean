-- SUMMARY: What a plan says, by the reply that it was made from.
import SdnZones.Proofs.Zone.Patch
import SdnZones.Proofs.Zone.Replies

/-!
# The classification of plans

A plan is to create the zone exactly if the reply tells that it is missing. Otherwise it compares
what the reply holds with what is desired (`Plan.Compares`): another name or another kind needs a
replacement, and of the rest those with the same record need nothing and the others an update
(`Zone.action_toChange_eq`). So nothing is planned exactly if nothing changes
(`Zone.plan_classified`).
-/

namespace SdnZones

/-- A plan that compares a zone with what is desired. -/
structure Plan.Compares (p : Plan) (current : Zone) : Prop where
  known : p.current = some current
  changes : p.changes = Zone.changes (some current) p.desired
  renamed : (∃ old new, p.action = .replace (.nameChanged old new)) ↔
    current.name ≠ p.desired.name
  retyped : (∃ old new, p.action = .replace (.blockChanged old new)) ↔
    current.name = p.desired.name ∧ current.kind ≠ p.desired.kind
  reason : ∀ reason, p.action = .replace reason →
    reason = .nameChanged current.name p.desired.name ∨
      reason = .blockChanged current.blockName p.desired.blockName
  nothing : p.action = .nothing ↔ current.name = p.desired.name ∧ current.kind = p.desired.kind ∧
    current.toRecord.fields = p.desired.toRecord.fields
  update : p.action = .update ↔ current.name = p.desired.name ∧ current.kind = p.desired.kind ∧
    current.toRecord.fields ≠ p.desired.toRecord.fields

/-! ## Fields that are all new -/

/-- From nothing, every field is a change. -/
theorem FieldChange.between_empty (fields : Dict Json) :
    between .empty fields = fields.toList.map fun e => ⟨e.1, none, some e.2.shown⟩ := by
  have names : (Dict.ofList (Dict.empty.toList ++ fields.toList)).names =
      fields.toList.map (·.1) := congrArg Dict.names fields.ofList_toList
  rw [between_eq_filterMap, names, List.filterMap_map, ← List.filterMap_eq_map]
  refine List.filterMap_congr fun e he => ?_
  have held : fields.get? e.1 = some e.2 := (Dict.find?_eq_some_iff fields.nodup_names).2 he
  exact change?_eq_some_iff.2 ⟨rfl, rfl, by rw [held]; rfl, Option.some_ne_none _ |>.symm⟩

/-! ## The action of a comparison -/

theorem Record.fields_inj {r s : Record} : r.fields = s.fields ↔ r = s := by
  refine ⟨fun same => Record.eq_of_shown fun field => by rw [same], fun same => by rw [same]⟩

section

variable (current desired : Zone)

@[simp] theorem Plan.current_toChange : (toChange current desired).current = some current := rfl

@[simp] theorem Plan.desired_toChange : (toChange current desired).desired = desired := rfl

@[simp] theorem Plan.changes_toChange :
    (toChange current desired).changes = Zone.changes (some current) desired := rfl

end

namespace Zone

variable {current desired : Zone}

theorem blockName_eq_iff (here : current.block ≠ none) (wanted : desired.block ≠ none) :
    current.blockName = desired.blockName ↔ current.kind = desired.kind := by
  refine ⟨fun same => ?_, blockName_of_kind⟩
  obtain ⟨b, hb⟩ := Option.ne_none_iff_exists'.1 here
  have kind : current.kind = some b.kind := by rw [Zone.kind, hb, Option.map_some]
  rw [kind, kind_of_blockName kind wanted same]

/-- The action for a zone that is there. -/
theorem action_toChange_eq (here : current.block ≠ none) (wanted : desired.block ≠ none) :
    (Plan.toChange current desired).action =
      if current.name ≠ desired.name then .replace (.nameChanged current.name desired.name)
      else if current.kind ≠ desired.kind then
        .replace (.blockChanged current.blockName desired.blockName)
      else if current.toRecord.fields = desired.toRecord.fields then .nothing
      else .update := by
  have unchanged : (Zone.changes (some current) desired).isEmpty = true ↔
      current.toRecord.fields = desired.toRecord.fields := by
    rw [List.isEmpty_iff, changes_eq_nil_iff, Record.fields_inj]
  simp only [Plan.toChange, replaceReason?, ne_eq, blockName_eq_iff here wanted, unchanged]
  by_cases name : current.name = desired.name
  · by_cases kind : current.kind = desired.kind
    · simp [name, kind]
    · simp [name, kind]
  · simp [name]

theorem compares_toChange (here : current.block ≠ none) (wanted : desired.block ≠ none) :
    (Plan.toChange current desired).Compares current := by
  have action := action_toChange_eq here wanted
  by_cases name : current.name = desired.name
  · by_cases kind : current.kind = desired.kind
    · by_cases fields : current.toRecord.fields = desired.toRecord.fields
      · rw [if_neg (not_not.2 name), if_neg (not_not.2 kind), if_pos fields] at action
        constructor <;> simp [action, name, kind, fields]
      · rw [if_neg (not_not.2 name), if_neg (not_not.2 kind), if_neg fields] at action
        constructor <;> simp [action, name, kind, fields]
    · rw [if_neg (not_not.2 name), if_pos kind] at action
      constructor <;> simp [action, name, kind]
  · rw [if_pos name] at action
    constructor <;> simp [action, name]

theorem action_toChange_ne_create : (Plan.toChange current desired).action ≠ .create := by
  intro create
  obtain ⟨_, _, action⟩ | ⟨_, ⟨_, action⟩ | ⟨_, action⟩⟩ := action_toChange current desired <;>
    cases action.symm.trans create

/-- A zone that is created has at least its name to show. -/
theorem changes_toCreate_ne_nil (desired : Zone) : (Plan.toCreate desired).changes ≠ [] := by
  intro none
  have empty : desired.toRecord.fields.toList = [] :=
    List.map_eq_nil_iff.1 ((FieldChange.between_empty _).symm.trans none)
  have named : Dict.find? "zone" desired.toRecord.fields.toList = some (.text desired.name) :=
    desired.toRecord.get?_fields_zone
  rw [empty] at named
  cases named

/-- Nothing is done exactly if nothing changes. -/
theorem changes_eq_nil_iff_nothing (here : current.block ≠ none) (wanted : desired.block ≠ none) :
    Zone.changes (some current) desired = [] ↔
      (Plan.toChange current desired).action = .nothing := by
  rw [(compares_toChange here wanted).nothing, changes_eq_nil_iff, Plan.desired_toChange,
    Record.fields_inj]
  constructor
  · intro same
    have block : current.toRecord.kind.getD "none" = desired.toRecord.kind.getD "none" := by
      rw [same]
    exact ⟨congrArg Record.zone same, (blockName_eq_iff here wanted).1 block, same⟩
  · exact fun same => same.2.2

end Zone

/-! ## Plans -/

theorem Plan.checked_of_sendable {p : Plan} {ds : Diagnostics}
    (current : ∀ z, p.current = some z → z.unsendable = []) (desired : p.desired.unsendable = []) :
    p.checked ds = .success p ds := by
  have conversion : (p.current.map Zone.unsendable).getD [] ++ p.desired.unsendable = [] := by
    rw [desired, List.append_nil]
    cases known : p.current with
    | none => rfl
    | some z => exact current z known
  simp only [checked, conversion, Diagnostics.hasError_nil, Bool.false_eq_true, if_false,
    List.append_nil]

/-- What a plan says is decided by the one reply that it was made from, whoever gave it. -/
theorem Zone.plan_classified {σ : Type} {t : Transport σ} {s : σ} {z : Zone} {ds : Diagnostics}
    {p : Plan} (planned : ((z.plan ds).run t s).1.result = some p) :
    ∃ reply, (z.plan ds).exchanges t s = [⟨.get (zonePath z.name), reply⟩] ∧
      p.desired = z.withDefaults ∧
      (p.changes = [] ↔ p.action = .nothing) ∧
      (p.action = .create ↔ reply.TellsAbsence) ∧
      (reply.TellsAbsence → p.current = none ∧
        p.changes = (p.desired.toRecord.fields.toList.map fun e => ⟨e.1, none, some e.2.shown⟩) ∧
        ((z.plan ds).run t s).1.diagnostics = ds) ∧
      (¬ reply.TellsAbsence → ∃ r current, reply.Holds r current ∧ p.Compares current ∧
        current.unsendable = [] ∧ ((z.plan ds).run t s).1.diagnostics = ds ++ r.strayCommas) := by
  obtain ⟨accepted, _⟩ := Plan.plannable_of_planned planned
  have wanted : z.withDefaults.block ≠ none := by
    obtain ⟨b, hb⟩ := accepted.exists_block
    rw [hb]
    exact Option.some_ne_none b
  have sendable := accepted.unsendable_eq_nil
  obtain ⟨reply, asked, yields⟩ := (plan_yields accepted.valid ds).run t s
  refine ⟨reply, asked, ?_⟩
  cases yields with
  | absent told h =>
    have made := h.trans (Plan.checked_of_sendable (fun _ known => by cases known) sendable)
    rw [made] at planned ⊢
    obtain rfl : Plan.toCreate z.withDefaults = p := Option.some.inj planned
    refine ⟨rfl, ⟨fun none => ?_, fun nothing => by cases nothing⟩, ⟨fun _ => told, fun _ => rfl⟩,
      fun _ => ⟨rfl, FieldChange.between_empty _, rfl⟩, fun untold => absurd told untold⟩
    exact absurd none (changes_toCreate_ne_nil _)
  | @held r current _ holds h =>
    have here := holds.block_ne_none
    have faithful := holds.readFrom.unsendable_eq_nil
    have made := h.trans (Plan.checked_of_sendable
      (fun _ known => by cases known; exact faithful) sendable)
    rw [made] at planned ⊢
    obtain rfl : Plan.toChange current z.withDefaults = p := Option.some.inj planned
    refine ⟨rfl, changes_eq_nil_iff_nothing here wanted, ⟨fun create => ?_, fun told => ?_⟩,
      fun told => absurd told holds.not_tellsAbsence, fun _ => ?_⟩
    · exact absurd create action_toChange_ne_create
    · exact absurd told holds.not_tellsAbsence
    · exact ⟨r, current, holds, compares_toChange here wanted, faithful, rfl⟩
  | unusable _ fails =>
    obtain ⟨d, _, none⟩ := fails
    rw [none] at planned
    cases planned

/-- The reply holds a zone of another name, with an empty element in a list. -/
theorem Zone.renamed_plan_classified :
    let fields : Json := .object [
      ("nodes", .text "pve1,"), ("type", .text "simple"), ("zone", .text "zone2")]
    let reply : Reply := .ok (.ok (.object [("data", fields)]))
    let t : Transport Unit := ⟨fun _ s => (reply, s), fun s => (.ok true, s)⟩
    let z : Zone := { name := "zone1", block := some (.simple {}) }
    let planned := ((z.plan []).run t ()).1
    planned.diagnostics.length = 1 ∧
      ∃ p, planned.result = some p ∧ p.action = .replace (.nameChanged "zone2" "zone1") ∧
        p.changes ≠ [] ∧ ∃ r current, reply.Holds r current ∧ p.Compares current ∧
          current.unsendable = [] ∧ planned.diagnostics = r.strayCommas := by
  intro fields reply t z planned
  obtain ⟨p, result, action⟩ : ∃ p, planned.result = some p ∧
      p.action = .replace (.nameChanged "zone2" "zone1") :=
    Option.map_eq_some_iff.1 (by decide)
  obtain ⟨given, asked, _, nothing, _, _, compared⟩ := plan_classified result
  have replies : ((z.plan []).exchanges t ()).map (·.reply) = [reply] := by decide
  rw [asked] at replies
  obtain rfl : given = reply := List.head_eq_of_cons_eq replies
  refine ⟨by decide, p, result, action, fun none => ?_, compared Reply.not_tellsAbsence_ok⟩
  cases action.symm.trans (nothing.1 none)

end SdnZones
