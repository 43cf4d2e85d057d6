-- SUMMARY: Zones with their defaults, and zones that break no constraint.
import SdnZones.Proofs.Zone.Lists
import SdnZones.Zone.Rules

/-!
# Defaults and constraints

Filling in defaults a second time changes nothing (`Zone.withDefaults_withDefaults`), and a
zone without violations has a block and a name (`Zone.exists_block_of_valid`). Operations go on
only with zones that are `Zone.Accepted`.
-/

namespace SdnZones

/-! ## Defaults -/

theorem dropEmptyList_ne_nil (values : Option (List String)) : dropEmptyList values ≠ some [] := by
  unfold dropEmptyList
  split
  · exact (Option.some_ne_none _).symm
  · rename_i h
    exact h

theorem dropEmptyList_of_ne {values : Option (List String)} (h : values ≠ some []) :
    dropEmptyList values = values := by
  unfold dropEmptyList
  split
  · exact absurd rfl h
  · rfl

namespace Block

@[simp] theorem kind_withDefaults (b : Block) : b.withDefaults.kind = b.kind := by cases b <;> rfl

theorem withDefaults_withDefaults (b : Block) : b.withDefaults.withDefaults = b.withDefaults := by
  cases b with
  | vxlan b => simp only [withDefaults, dropEmptyList_of_ne (dropEmptyList_ne_nil b.peers)]
  | evpn b => simp only [withDefaults, dropEmptyList_of_ne (dropEmptyList_ne_nil b.exitNodes)]
  | _ => rfl

theorem lists_withDefaults_ne_nil {b : Block} : ∀ l ∈ b.withDefaults.lists, l.2 ≠ some [] := by
  intro l h
  cases b with
  | vxlan b =>
    obtain rfl := List.mem_singleton.1 h
    exact dropEmptyList_ne_nil b.peers
  | evpn b =>
    obtain rfl := List.mem_singleton.1 h
    exact dropEmptyList_ne_nil b.exitNodes
  | _ => cases h

end Block

/-! ## Checks of single settings -/

theorem require_eq_nil_iff {α : Type} {setting : String} {v : Option α} :
    require setting v = [] ↔ ∃ x, v = some x := by
  cases v <;> simp [require]

theorem withinRange_eq_nil_iff {setting : String} {low high : Int32} {v : Option Int32} :
    withinRange setting low high v = [] ↔
      ∀ n, v = some n → low.toInt ≤ n.toInt ∧ n.toInt ≤ high.toInt := by
  cases v <;> simp [withinRange, Int32.le_iff_toInt_le]

theorem oneOf_eq_nil_iff {setting : String} {allowed : List String} {v : Option String} :
    oneOf setting allowed v = [] ↔ ∀ s, v = some s → s ∈ allowed := by
  cases v <;> simp [oneOf]

/-- What is taken for a MAC address are six pairs of hexadecimal digits with colons between. -/
theorem pairs_of_isMac {s : String} (h : isMac s = true) :
    ∃ pairs : List (List Char), s.toList = Text.join ':' pairs ∧ pairs.length = 6 ∧
      ∀ pair ∈ pairs, pair.length = 2 ∧ ∀ c ∈ pair, isHexDigit c = true := by
  refine ⟨Text.split ':' s.toList, (Text.join_split ':' s.toList).symm, ?_⟩
  simpa [isMac] using h

namespace Zone

variable {z : Zone}

@[simp] theorem name_withDefaults : z.withDefaults.name = z.name := rfl

@[simp] theorem kind_withDefaults : z.withDefaults.kind = z.kind := by
  cases h : z.block <;> simp [kind, withDefaults, h]

/-- Defaults are filled in once and for all. -/
theorem withDefaults_withDefaults (z : Zone) : z.withDefaults.withDefaults = z.withDefaults := by
  have nodes : dropEmptyList (dropEmptyList z.nodes) = dropEmptyList z.nodes :=
    dropEmptyList_of_ne (dropEmptyList_ne_nil z.nodes)
  cases h : z.block with
  | none => simp [withDefaults, h, nodes]
  | some b => simp [withDefaults, h, nodes, Block.withDefaults_withDefaults]

/-- With its defaults a zone has no list without elements. -/
theorem lists_withDefaults_ne_nil (z : Zone) : ∀ l ∈ z.withDefaults.lists, l.2 ≠ some [] := by
  intro l hl
  rcases List.mem_cons.1 hl with rfl | hl
  · exact dropEmptyList_ne_nil z.nodes
  · cases hb : z.block with
    | none => simp [withDefaults, hb] at hl
    | some b => exact Block.lists_withDefaults_ne_nil l (by simpa [withDefaults, hb] using hl)

/-! ## Constraints -/

theorem hasError_validate_eq_false_iff :
    Diagnostics.hasError z.validate = false ↔ z.violations = [] := by
  have isError : ∀ v : Violation, v.diagnostic.isError = true := by
    intro v
    cases v <;> rfl
  constructor
  · intro h
    rw [Diagnostics.hasError, validate, List.any_map, List.any_eq_false] at h
    refine List.eq_nil_iff_forall_not_mem.2 fun v hv => h v hv (isError v)
  · intro h
    rw [validate, h]
    rfl

theorem validate_eq_nil_of_valid (h : Diagnostics.hasError z.validate = false) :
    z.validate = [] := by
  rw [validate, hasError_validate_eq_false_iff.1 h]
  rfl

/-- All that is said of what a record cannot carry are errors. -/
theorem unsendable_eq_nil_of_sendable (h : Diagnostics.hasError z.unsendable = false) :
    z.unsendable = [] := by
  refine List.eq_nil_iff_forall_not_mem.2 fun d hd => ?_
  have isError : d.isError = true := by
    obtain ⟨l, _, hd⟩ := List.mem_flatMap.1 hd
    obtain ⟨v, _, rfl⟩ := List.mem_map.1 hd
    rfl
  exact List.any_eq_false.1 h d hd isError

theorem violations_eq_nil_iff :
    z.violations = [] ↔
      minNameLength ≤ z.name.length ∧ (∀ mtu, z.mtu = some mtu → minMtu.toInt ≤ mtu.toInt) ∧
        ∃ b, z.block = some b ∧ b.violations = [] := by
  rw [violations, List.append_eq_nil_iff, List.append_eq_nil_iff, and_assoc]
  refine and_congr (by simp) (and_congr ?_ ?_)
  · cases z.mtu <;> simp [Int32.lt_iff_toInt_lt]
  · cases z.block <;> simp

theorem exists_block_of_valid (h : Diagnostics.hasError z.validate = false) :
    ∃ b, z.block = some b := by
  obtain ⟨_, _, b, hb, _⟩ := violations_eq_nil_iff.1 (hasError_validate_eq_false_iff.1 h)
  exact ⟨b, hb⟩

theorem name_ne_empty_of_valid (h : Diagnostics.hasError z.validate = false) : z.name ≠ "" := by
  obtain ⟨long, _⟩ := violations_eq_nil_iff.1 (hasError_validate_eq_false_iff.1 h)
  intro empty
  rw [empty] at long
  exact absurd long (by decide)

/-! ## Zones that are accepted -/

/-- A zone that, with its defaults, breaks no constraint and can be carried by a record. -/
structure Accepted (z : Zone) : Prop where
  valid : Diagnostics.hasError z.withDefaults.validate = false
  sendable : Diagnostics.hasError z.withDefaults.unsendable = false

namespace Accepted

theorem name_ne_empty (h : z.Accepted) : z.name ≠ "" :=
  name_ne_empty_of_valid (z := z.withDefaults) h.valid

theorem exists_block (h : z.Accepted) : ∃ b, z.withDefaults.block = some b :=
  exists_block_of_valid h.valid

theorem validate_eq_nil (h : z.Accepted) : z.withDefaults.validate = [] :=
  validate_eq_nil_of_valid h.valid

theorem unsendable_eq_nil (h : z.Accepted) : z.withDefaults.unsendable = [] :=
  unsendable_eq_nil_of_sendable h.sendable

theorem hasError_eq_false (h : z.Accepted) :
    Diagnostics.hasError (z.withDefaults.validate ++ z.withDefaults.unsendable) = false := by
  rw [Diagnostics.hasError_append, h.valid, h.sendable]
  rfl

/-- What was accepted is accepted again once its defaults are filled in. -/
theorem withDefaults (h : z.Accepted) : z.withDefaults.Accepted := by
  constructor
  · rw [withDefaults_withDefaults]
    exact h.valid
  · rw [withDefaults_withDefaults]
    exact h.sendable

end Accepted

end Zone

end SdnZones
