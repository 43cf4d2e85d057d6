-- SUMMARY: Structures as slots to be filled, and what a layout of slots decodes from members.
import Mathlib.Data.List.Nodup
import Mathlib.Data.List.Pairwise
import SdnZones.Decode.Layout
import SdnZones.Proofs.Dict

/-!
# Slots

A slot is a part of a structure that can be read off, replaced, and decoded. If the readers of a
layout are those of slots that are independent of each other and make up the whole structure
(`Slots.Lawful`), then decoding fills each slot from the member of its own name and from nothing
else, in whatever order the members stand (`Slots.ofMembers_eq_ok_iff`).
-/

namespace SdnZones

/-- A part of a structure, with the name under which it is decoded. -/
structure Slot (ν σ : Type) where
  name : String
  Value : Type
  get : σ → Value
  set : Value → σ → σ
  read : ν → Except DecodeFault Value

namespace Slot

variable {ν σ : Type} {f : Slot ν σ} {s t : σ} {members : List (String × ν)}

/-- The reader of a slot. -/
def reader (f : Slot ν σ) : FieldReader ν σ := ⟨f.name, fun v => (f.read v).map f.set⟩

/-- A slot holds what its member is read as; without a member it is as it was. -/
def Filled (f : Slot ν σ) (members : List (String × ν)) (s t : σ) : Prop :=
  match Dict.find? f.name members with
  | some v => f.read v = .ok (f.get t)
  | none => f.get t = f.get s

theorem filled_of_absent (absent : Dict.find? f.name members = none) :
    f.Filled members s t ↔ f.get t = f.get s := by
  rw [Filled, absent]

theorem filled_of_present {v : ν} (present : Dict.find? f.name members = some v) :
    f.Filled members s t ↔ f.read v = .ok (f.get t) := by
  rw [Filled, present]

theorem filled_cons_of_ne {name : String} {v : ν} (other : f.name ≠ name) :
    f.Filled ((name, v) :: members) s t ↔ f.Filled members s t := by
  rw [Filled, Filled, Dict.find?, if_neg other]

/-- Whether neither of two slots changes when the other is set. -/
def Independent (f g : Slot ν σ) : Prop :=
  (∀ v s, f.get (g.set v s) = f.get s) ∧ ∀ v s, g.get (f.set v s) = g.get s

instance : Std.Symm (@Independent ν σ) := ⟨fun _ _ => And.symm⟩

theorem filled_congr {u : σ} (same : f.get t = f.get u) :
    f.Filled members s t ↔ f.Filled members s u := by
  rw [Filled, Filled, same]

end Slot

namespace Slots

variable {ν σ : Type} {slots : List (Slot ν σ)}

/-- Slots of different names that are independent and make up the whole structure. -/
structure Lawful (slots : List (Slot ν σ)) : Prop where
  distinct : (slots.map (·.name)).Nodup
  get_set : ∀ f ∈ slots, ∀ v s, f.get (f.set v s) = v
  get_set_of_ne : ∀ f ∈ slots, ∀ g ∈ slots, f.name ≠ g.name → ∀ v s, f.get (g.set v s) = f.get s
  ext : ∀ s t, (∀ f ∈ slots, f.get s = f.get t) → s = t

/-- Slots are lawful if no two of them touch each other. -/
theorem Lawful.of_pairwise (distinct : (slots.map (·.name)).Nodup)
    (get_set : ∀ f ∈ slots, ∀ v s, f.get (f.set v s) = v)
    (independent : slots.Pairwise Slot.Independent)
    (ext : ∀ s t, (∀ f ∈ slots, f.get s = f.get t) → s = t) : Lawful slots where
  distinct := distinct
  get_set := get_set
  get_set_of_ne := fun _ hf _ hg ne =>
    (independent.forall hf hg fun same => ne (congrArg Slot.name same)).1
  ext := ext

theorem Lawful.eq_of_name_eq (lawful : Lawful slots) {f g : Slot ν σ} (hf : f ∈ slots)
    (hg : g ∈ slots) (same : f.name = g.name) : f = g :=
  List.inj_on_of_nodup_map lawful.distinct hf hg same

/-- Slots of which each can be read from its own member can be filled together. -/
theorem Lawful.exists_filled (lawful : Lawful slots) {members : List (String × ν)} {s : σ}
    (readable : ∀ f ∈ slots, ∀ v, Dict.find? f.name members = some v → ∃ x, f.read v = .ok x) :
    ∃ t, ∀ f ∈ slots, f.Filled members s t := by
  -- The slots are filled one after the other, so the ones filled before have to stay so.
  suffices ∀ some : List (Slot ν σ), (some.map (·.name)).Nodup → (∀ f ∈ some, f ∈ slots) →
      ∃ t, ∀ f ∈ some, f.Filled members s t from this slots lawful.distinct fun _ hf => hf
  intro some distinct known
  induction some with
  | nil => exact ⟨s, fun _ hf => absurd hf List.not_mem_nil⟩
  | cons f some ih =>
    obtain ⟨fresh, others⟩ := List.nodup_cons.1 distinct
    obtain ⟨hf, hsome⟩ := List.forall_mem_cons.1 known
    obtain ⟨t, filled⟩ := ih others hsome
    obtain ⟨x, hx⟩ : ∃ x, ∀ t, f.get t = x → f.Filled members s t := by
      cases found : Dict.find? f.name members with
      | none => exact ⟨f.get s, fun t ht => (Slot.filled_of_absent found).2 ht⟩
      | some v =>
        obtain ⟨x, read⟩ := readable f hf v found
        exact ⟨x, fun t ht => (Slot.filled_of_present found).2 (ht ▸ read)⟩
    refine ⟨f.set x t, List.forall_mem_cons.2 ⟨hx _ (lawful.get_set f hf x t), fun g hg => ?_⟩⟩
    have ne : g.name ≠ f.name := fun same => fresh (List.mem_map.2 ⟨g, hg, same⟩)
    have kept := lawful.get_set_of_ne g (hsome g hg) f hf ne x t
    exact (Slot.filled_congr kept).2 (filled g hg)

theorem find?_reader {name : String} :
    (slots.map Slot.reader).find? (·.name == name) =
      (slots.find? (·.name == name)).map Slot.reader := by
  rw [List.find?_map]
  rfl

/-- The members fill the slots: none has a strange name where these are refused, and the first slot
has a member where it needs one. -/
structure Fill (l : Layout ν σ) (slots : List (Slot ν σ)) (seen : List String)
    (members : List (String × ν)) (s t : σ) : Prop where
  known : l.strict = true → ∀ name ∈ members.map (·.1), name ∈ slots.map (·.name)
  first : ∀ f, l.needsFirst = true → slots.head? = some f →
    f.name ∈ seen ∨ f.name ∈ members.map (·.1)
  filled : ∀ f ∈ slots, f.Filled members s t

variable {l : Layout ν σ}

/-- A member of another name fills nothing. -/
theorem fill_cons_of_unknown {seen : List String} {name : String} {v : ν}
    {members : List (String × ν)} {s t : σ} (unknown : name ∉ slots.map (·.name)) :
    Fill l slots seen ((name, v) :: members) s t ↔
      l.strict = false ∧ Fill l slots seen members s t := by
  have other : ∀ f ∈ slots, f.name ≠ name := fun f hf same =>
    unknown (List.mem_map.2 ⟨f, hf, same⟩)
  constructor
  · rintro ⟨known, first, filled⟩
    refine ⟨?_, fun strict n hn => known strict n (List.mem_cons_of_mem _ hn),
      fun f needed head => ?_,
      fun f hf => (Slot.filled_cons_of_ne (other f hf)).1 (filled f hf)⟩
    · cases strict : l.strict with
      | false => rfl
      | true => exact absurd (known strict name List.mem_cons_self) unknown
    · refine (first f needed head).imp id fun h => ?_
      exact (List.mem_cons.1 h).resolve_left (other f (List.mem_of_head? head))
  · rintro ⟨lenient, _, first, filled⟩
    refine ⟨fun strict => ?_, fun f needed head => (first f needed head).imp id
      (List.mem_cons_of_mem _), fun f hf => (Slot.filled_cons_of_ne (other f hf)).2 (filled f hf)⟩
    rw [lenient] at strict
    cases strict

/-- The member of a slot fills it, and the other members fill the other slots. -/
theorem fill_cons_of_mem (lawful : Lawful slots) {seen : List String} {f : Slot ν σ}
    (hf : f ∈ slots) {v : ν} {members : List (String × ν)} {s t : σ}
    (fresh : f.name ∉ members.map (·.1)) :
    Fill l slots seen ((f.name, v) :: members) s t ↔
      ∃ x, f.read v = .ok x ∧ Fill l slots (f.name :: seen) members (f.set x s) t := by
  have absent := Dict.find?_eq_none_iff.2 fresh
  have present : Dict.find? f.name ((f.name, v) :: members) = some v := if_pos rfl
  have others : ∀ x, ∀ g ∈ slots, g.name ≠ f.name →
      (g.Filled ((f.name, v) :: members) s t ↔ g.Filled members (f.set x s) t) := by
    intro x g hg other
    rw [Slot.filled_cons_of_ne other, Slot.Filled, Slot.Filled,
      lawful.get_set_of_ne g hg f hf other]
  constructor
  · rintro ⟨known, first, filled⟩
    refine ⟨f.get t, (Slot.filled_of_present present).1 (filled f hf),
      fun strict n hn => known strict n (List.mem_cons_of_mem _ hn), fun g needed head => ?_,
      fun g hg => ?_⟩
    · rw [List.mem_cons, or_assoc, or_left_comm]
      exact (first g needed head).imp id List.mem_cons.1
    · by_cases same : g.name = f.name
      · obtain rfl := lawful.eq_of_name_eq hg hf same
        rw [Slot.filled_of_absent absent, lawful.get_set g hg]
      · exact (others _ g hg same).1 (filled g hg)
  · rintro ⟨x, read, known, first, filled⟩
    refine ⟨fun strict n hn => ?_, fun g needed head => ?_, fun g hg => ?_⟩
    · rcases List.mem_cons.1 hn with rfl | hn
      · exact List.mem_map.2 ⟨f, hf, rfl⟩
      · exact known strict n hn
    · have placed := first g needed head
      rw [List.mem_cons, or_assoc, or_left_comm] at placed
      exact placed.imp id List.mem_cons.2
    · by_cases same : g.name = f.name
      · obtain rfl := lawful.eq_of_name_eq hg hf same
        have held := (Slot.filled_of_absent absent).1 (filled g hg)
        rw [lawful.get_set g hg] at held
        exact (Slot.filled_of_present present).2 (held ▸ read)
      · exact (others x g hg same).2 (filled g hg)

section

variable (readers : l.readers = slots.map Slot.reader)
include readers

theorem missing?_eq_none_iff {seen : List String} :
    l.missing? seen = none ↔
      ∀ f, l.needsFirst = true → slots.head? = some f → f.name ∈ seen := by
  rw [Layout.missing?, readers]
  cases slots with
  | nil => simp
  | cons f rest =>
    cases l.needsFirst <;> simp [Slot.reader]

variable (lawful : Lawful slots)
include lawful

theorem fill_nil_iff {seen : List String} {s t : σ} :
    Fill l slots seen [] s t ↔ l.missing? seen = none ∧ t = s := by
  rw [missing?_eq_none_iff readers]
  constructor
  · rintro ⟨_, first, filled⟩
    exact ⟨fun f needed head => (first f needed head).resolve_right List.not_mem_nil,
      lawful.ext t s filled⟩
  · rintro ⟨first, rfl⟩
    exact ⟨fun _ _ h => absurd h List.not_mem_nil, fun f needed head => .inl (first f needed head),
      fun _ _ => rfl⟩

/-- Visiting members of different names fills each slot from its own member. -/
theorem visit_eq_ok_iff {seen : List String} {members : List (String × ν)} {s t : σ}
    (distinct : (members.map (·.1)).Nodup) (unseen : ∀ e ∈ members, e.1 ∉ seen) :
    l.visit none seen s members = .ok t ↔ Fill l slots seen members s t := by
  induction members generalizing seen s with
  | nil =>
    rw [fill_nil_iff readers lawful, Layout.visit]
    cases l.missing? seen with
    | none => simp [eq_comm]
    | some fault => simp
  | cons e members ih =>
    obtain ⟨name, v⟩ := e
    obtain ⟨fresh, distinctRest⟩ := List.nodup_cons.1 distinct
    obtain ⟨unseenName, unseenRest⟩ := List.forall_mem_cons.1 unseen
    rw [Layout.visit, readers, find?_reader]
    cases found : slots.find? (·.name == name) with
    | none =>
      have unknown : name ∉ slots.map (·.name) := fun h => by
        obtain ⟨f, hf, rfl⟩ := List.mem_map.1 h
        simpa using List.find?_eq_none.1 found f hf
      rw [fill_cons_of_unknown unknown, ← ih distinctRest unseenRest]
      cases l.strict with
      | true => simp
      | false => simp
    | some f =>
      obtain rfl : f.name = name := by simpa using List.find?_some found
      have notSeen : seen.contains f.name = false := by simpa using unseenName
      have unseenBoth : ∀ e ∈ members, e.1 ∉ f.name :: seen := fun e he h =>
        (List.mem_cons.1 h).elim (fun same => fresh (List.mem_map.2 ⟨e, he, same⟩))
          (unseenRest e he)
      rw [fill_cons_of_mem lawful (List.mem_of_find?_eq_some found) fresh]
      simp only [Option.map_some, notSeen, Slot.reader]
      cases read : f.read v with
      | error fault => simp [Except.map]
      | ok x => simp [Except.map, ih distinctRest unseenBoth]

/-- A structure is decoded from members of different names, in whatever order, exactly if each
slot can be filled from the member of its name. -/
theorem ofMembers_eq_ok_iff {members : List (String × ν)} {s t : σ}
    (distinct : (members.map (·.1)).Nodup) :
    l.ofMembers none s members = .ok t ↔ Fill l slots [] members s t :=
  visit_eq_ok_iff readers lawful distinct fun _ _ => List.not_mem_nil

end

end Slots

end SdnZones
