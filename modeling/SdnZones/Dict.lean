-- SUMMARY: Finite maps from names to values, kept in ascending order of the names.

/-!
# Dictionaries

A dictionary is a list of entries whose names ascend strictly, so two dictionaries
with the same look-ups are the same list. `get?_insert` and `get?_erase` say what the
operations do; everything else about a dictionary follows from look-ups by `ext_get?`.
-/

namespace SdnZones

/-- A finite map from names to values. -/
structure Dict (α : Type) where
  entries : List (String × α)
  ascending : entries.Pairwise fun a b => a.1 < b.1

namespace Dict

variable {α β : Type}

/-! ## Entries -/

/-- The value beside a name. -/
def find? (name : String) : List (String × α) → Option α
  | [] => none
  | (k, v) :: rest => if name = k then some v else find? name rest

/-- An entry put at its place, instead of one of the same name. -/
def put (name : String) (value : α) : List (String × α) → List (String × α)
  | [] => [(name, value)]
  | (k, v) :: rest =>
    if name < k then (name, value) :: (k, v) :: rest
    else if name = k then (name, value) :: rest
    else (k, v) :: put name value rest

/-- The entries of other names. -/
def drop (name : String) (entries : List (String × α)) : List (String × α) :=
  entries.filter fun e => e.1 ≠ name

theorem lt_or_eq_or_gt (a b : String) : a < b ∨ a = b ∨ b < a := by
  by_cases h : a < b
  · exact .inl h
  · by_cases g : b < a
    · exact .inr (.inr g)
    · exact .inr (.inl (String.le_antisymm (String.not_lt.1 g) (String.not_lt.1 h)))

theorem mem_put {name : String} {value : α} {entries : List (String × α)} {e : String × α}
    (h : e ∈ put name value entries) : e = (name, value) ∨ e ∈ entries := by
  induction entries with
  | nil => exact .inl (by simpa [put] using h)
  | cons entry rest ih =>
    obtain ⟨k, v⟩ := entry
    simp only [put] at h
    split at h
    · simpa using h
    · split at h
      · rcases List.mem_cons.1 h with h | h
        · exact .inl h
        · exact .inr (List.mem_cons_of_mem _ h)
      · rcases List.mem_cons.1 h with h | h
        · exact .inr (h ▸ List.mem_cons_self)
        · exact (ih h).imp id (List.mem_cons_of_mem _)

theorem pairwise_put {name : String} {value : α} {entries : List (String × α)}
    (h : entries.Pairwise fun a b => a.1 < b.1) :
    (put name value entries).Pairwise fun a b => a.1 < b.1 := by
  induction entries with
  | nil => simp [put]
  | cons entry rest ih =>
    obtain ⟨k, v⟩ := entry
    obtain ⟨hk, hr⟩ := List.pairwise_cons.1 h
    simp only [put]
    split
    · rename_i lt
      refine List.pairwise_cons.2 ⟨fun e he => ?_, h⟩
      rcases List.mem_cons.1 he with he | he
      · exact he ▸ lt
      · exact String.lt_trans lt (hk e he)
    · split
      · rename_i eq
        exact List.pairwise_cons.2 ⟨fun e he => eq ▸ hk e he, hr⟩
      · rename_i nlt ne
        refine List.pairwise_cons.2 ⟨fun e he => ?_, ih hr⟩
        rcases mem_put he with he | he
        · rcases lt_or_eq_or_gt name k with g | g | g
          · exact absurd g nlt
          · exact absurd g ne
          · exact he ▸ g
        · exact hk e he

theorem find?_put (name key : String) (value : α) (entries : List (String × α)) :
    find? key (put name value entries) = if key = name then some value else find? key entries := by
  induction entries with
  | nil => simp [put, find?]
  | cons entry rest ih =>
    obtain ⟨k, v⟩ := entry
    simp only [put]
    split
    · simp only [find?]
    · split
      · rename_i eq
        subst eq
        simp only [find?]
        split <;> rfl
      · rename_i ne
        simp only [find?, ih]
        by_cases h : key = k
        · have : key ≠ name := fun e => ne (e ▸ h)
          simp [h, Ne.symm ne]
        · simp [h]

theorem find?_drop (name key : String) (entries : List (String × α)) :
    find? key (drop name entries) = if key = name then none else find? key entries := by
  induction entries with
  | nil => simp [drop, find?]
  | cons entry rest ih =>
    obtain ⟨k, v⟩ := entry
    simp only [drop] at ih ⊢
    by_cases h : k = name
    · subst h
      rw [List.filter_cons_of_neg (by simp), ih]
      simp only [find?]
      split <;> rfl
    · rw [List.filter_cons_of_pos (by simpa using h)]
      simp only [find?, ih]
      by_cases g : key = k
      · subst g; simp [h]
      · simp [g]

theorem find?_eq_none {name : String} {entries : List (String × α)}
    (h : ∀ e ∈ entries, name < e.1) : find? name entries = none := by
  induction entries with
  | nil => rfl
  | cons entry rest ih =>
    have ne : name ≠ entry.1 := String.ne_of_lt (h entry List.mem_cons_self)
    simp only [find?, if_neg ne]
    exact ih fun e he => h e (List.mem_cons_of_mem _ he)

theorem eq_of_find? {xs ys : List (String × α)} (hx : xs.Pairwise fun a b => a.1 < b.1)
    (hy : ys.Pairwise fun a b => a.1 < b.1) (h : ∀ name, find? name xs = find? name ys) :
    xs = ys := by
  induction xs generalizing ys with
  | nil =>
    cases ys with
    | nil => rfl
    | cons y ys => simpa [find?] using h y.1
  | cons x xs ih =>
    cases ys with
    | nil => simpa [find?] using h x.1
    | cons y ys =>
      obtain ⟨k, v⟩ := x
      obtain ⟨l, w⟩ := y
      obtain ⟨hk, hxs⟩ := List.pairwise_cons.1 hx
      obtain ⟨hl, hys⟩ := List.pairwise_cons.1 hy
      have same : k = l := by
        rcases lt_or_eq_or_gt k l with g | g | g
        · have := h k
          simp only [find?, if_true, if_neg (String.ne_of_lt g)] at this
          rw [find?_eq_none fun e he => String.lt_trans g (hl e he)] at this
          cases this
        · exact g
        · have := h l
          simp only [find?, if_true, if_neg (String.ne_of_lt g)] at this
          rw [find?_eq_none fun e he => String.lt_trans g (hk e he)] at this
          cases this
      subst same
      have value : v = w := by simpa [find?] using h k
      subst value
      congr 1
      refine ih hxs hys fun name => ?_
      by_cases g : name = k
      · subst g
        rw [find?_eq_none hk, find?_eq_none hl]
      · simpa [find?, g] using h name

/-! ## Operations -/

/-- The dictionary without entries. -/
def empty : Dict α := ⟨[], .nil⟩

instance : Inhabited (Dict α) := ⟨empty⟩

instance [DecidableEq α] : DecidableEq (Dict α) := fun a b =>
  decidable_of_iff (a.entries = b.entries) ⟨fun h => by cases a; cases b; cases h; rfl, (· ▸ rfl)⟩

/-- The value of a name. -/
def get? (d : Dict α) (name : String) : Option α := find? name d.entries

/-- Whether a name has a value. -/
def contains (d : Dict α) (name : String) : Bool := (d.get? name).isSome

/-- The dictionary with a value for a name, in place of any it had. -/
def insert (d : Dict α) (name : String) (value : α) : Dict α :=
  ⟨put name value d.entries, pairwise_put d.ascending⟩

/-- The dictionary without a name. -/
def erase (d : Dict α) (name : String) : Dict α :=
  ⟨drop name d.entries, d.ascending.filter _⟩

/-- The dictionary of a list of entries; of entries with one name the last stays. -/
def ofList (entries : List (String × α)) : Dict α :=
  entries.foldl (fun d e => d.insert e.1 e.2) empty

/-- The entries in ascending order of their names. -/
def toList (d : Dict α) : List (String × α) := d.entries

/-- The names in ascending order. -/
def names (d : Dict α) : List String := d.entries.map (·.1)

/-- Every value replaced by its image. -/
def map (f : α → β) (d : Dict α) : Dict β :=
  ⟨d.entries.map fun e => (e.1, f e.2), List.pairwise_map.2 d.ascending⟩

/-- Whether there are no entries. -/
def isEmpty (d : Dict α) : Bool := d.entries.isEmpty

@[simp] theorem get?_empty (name : String) : (empty : Dict α).get? name = none := rfl

theorem get?_insert (d : Dict α) (name key : String) (value : α) :
    (d.insert name value).get? key = if key = name then some value else d.get? key :=
  find?_put name key value d.entries

theorem get?_erase (d : Dict α) (name key : String) :
    (d.erase name).get? key = if key = name then none else d.get? key :=
  find?_drop name key d.entries

/-- Dictionaries with the same look-ups are equal. -/
theorem ext_get? {a b : Dict α} (h : ∀ name, a.get? name = b.get? name) : a = b := by
  cases a with
  | mk xs hx =>
    cases b with
    | mk ys hy =>
      have : xs = ys := eq_of_find? hx hy h
      subst this
      rfl

end Dict

end SdnZones
