-- SUMMARY: Codecs of JSON values, fields coded as members, and the structures made of fields.
import SdnZones.Decode.Datum
import SdnZones.Proofs.Decode.Slot
import SdnZones.Proofs.Json.Normal

/-!
# Codecs

A codec says how values are read and how they are written, and which JSON values can be read. The
law of a codec (`Codec.read_eq_ok_iff`) is that a value is read from what it is written as, up to
the order of members and to members that are null. The fields of a structure have codecs of
their own, and a structure made of such fields (`Form`) has one again (`Form.codec`).
-/

namespace SdnZones

namespace Datum

theorem ofMembers_eq_map (members : List (String × Json)) :
    ofMembers members = members.map fun e => (e.1, ofJson e.2) := by
  induction members with
  | nil => rfl
  | cons e members ih => rw [ofMembers, ih, List.map_cons]

theorem names_ofMembers (members : List (String × Json)) :
    (ofMembers members).map (·.1) = members.map (·.1) := by
  rw [ofMembers_eq_map, List.map_map]
  rfl

theorem find?_ofMembers (name : String) (members : List (String × Json)) :
    Dict.find? name (ofMembers members) = (Dict.find? name members).map ofJson := by
  rw [ofMembers_eq_map, Dict.find?_map]

theorem readOptional_of_ne {α : Type} (read : Datum → Except DecodeFault α) {v : Json}
    (h : v ≠ .null) : readOptional read (ofJson v) = (read (ofJson v)).map some := by
  cases v <;> first | rfl | exact absurd rfl h

theorem map_some_eq_ok_iff {ε α : Type} {e : Except ε α} {x : Option α} :
    e.map some = .ok x ↔ ∃ y, x = some y ∧ e = .ok y := by
  cases e <;> simp [Except.map, eq_comm]

end Datum

/-! ## Codecs of values -/

/-- How values of a type are read and written. The laws are about JSON values that are presented,
and of these the admitted ones can be read. -/
structure Codec (α : Type) where
  read : Datum → Except DecodeFault α
  encode : α → Json
  Presented : Json → Prop
  Admits : Json → Prop
  encode_ne_null : ∀ x, encode x ≠ .null
  read_encode : ∀ x, read (.ofJson (encode x)) = .ok x
  read_sorted_encode : ∀ x, read (.ofJson (encode x).sorted) = .ok x
  exists_read : ∀ {v}, Presented v → Admits v → ∃ x, read (.ofJson v) = .ok x
  read_eq_ok_iff : ∀ {v x}, Presented v →
    (read (.ofJson v) = .ok x ↔ Admits v ∧ (encode x).sorted = v.withoutNulls.sorted)

theorem Codec.sorted_encode_ne_null {α : Type} (c : Codec α) (x : α) :
    (c.encode x).sorted ≠ .null := Json.sorted_ne_null (c.encode_ne_null x)

/-! ## Fields -/

/-- A slot that is coded as a member. What is shown of a value is the member that it is written as,
if it is not left out. -/
structure Field (σ : Type) extends Slot Datum σ where
  shows : Value → Option Json
  Presented : Json → Prop
  Admits : Json → Prop
  read_shows : ∀ {x v}, shows x = some v → read (.ofJson v) = .ok x
  read_sorted_shows : ∀ {x v}, shows x = some v → read (.ofJson v.sorted) = .ok x
  exists_read : ∀ {v}, Presented v → Admits v → ∃ x, read (.ofJson v) = .ok x
  read_eq_ok_iff : ∀ {v x}, Presented v →
    (read (.ofJson v) = .ok x ↔ Admits v ∧ (shows x).map Json.sorted = v.normal?)

namespace Codec

variable {α σ : Type} (c : Codec α) (name : String)

/-- The field of a value that has to be there. -/
def required (get : σ → α) (set : α → σ → σ) : Field σ where
  name := name
  Value := α
  get := get
  set := set
  read := c.read
  shows := fun x => some (c.encode x)
  Presented := c.Presented
  Admits := c.Admits
  read_shows := fun h => Option.some.inj h ▸ c.read_encode _
  read_sorted_shows := fun h => Option.some.inj h ▸ c.read_sorted_encode _
  exists_read := c.exists_read
  read_eq_ok_iff := fun {v x} presented => by
    rw [c.read_eq_ok_iff presented, Option.map_some]
    refine and_congr_right fun _ => ?_
    by_cases null : v = .null
    · subst null
      exact iff_of_false (c.sorted_encode_ne_null x) (Option.some_ne_none _)
    · rw [Json.normal?_of_ne null, Option.some.injEq]

/-- The field of a value that may be absent, or null instead. -/
def optional (get : σ → Option α) (set : Option α → σ → σ) : Field σ where
  name := name
  Value := Option α
  get := get
  set := set
  read := Datum.readOptional c.read
  shows := Option.map c.encode
  Presented := fun v => v = .null ∨ c.Presented v
  Admits := fun v => v = .null ∨ c.Admits v
  read_shows := fun {x v} h => by
    obtain ⟨y, rfl, rfl⟩ := Option.map_eq_some_iff.1 h
    rw [Datum.readOptional_of_ne _ (c.encode_ne_null y), c.read_encode]
    rfl
  read_sorted_shows := fun {x v} h => by
    obtain ⟨y, rfl, rfl⟩ := Option.map_eq_some_iff.1 h
    rw [Datum.readOptional_of_ne _ (c.sorted_encode_ne_null y), c.read_sorted_encode]
    rfl
  exists_read := fun {v} presented admitted => by
    by_cases null : v = .null
    · subst null
      exact ⟨none, rfl⟩
    · obtain ⟨x, hx⟩ := c.exists_read (presented.resolve_left null) (admitted.resolve_left null)
      rw [Datum.readOptional_of_ne _ null, hx]
      exact ⟨some x, rfl⟩
  read_eq_ok_iff := fun {v x} presented => by
    by_cases null : v = .null
    · subst null
      cases x <;> simp [Datum.ofJson, Datum.readOptional, Datum.isAbsent]
    · have law := fun y => c.read_eq_ok_iff (x := y) (presented.resolve_left null)
      rw [Datum.readOptional_of_ne _ null, Datum.map_some_eq_ok_iff, Json.normal?_of_ne null]
      cases x with
      | none => simp
      | some y => simp [law, null]

theorem optional_shows_eq_none_iff {start : σ} {get : σ → Option α} {set : Option α → σ → σ}
    (bare : get start = none) (x : Option α) :
    (c.optional name get set).shows x = none ↔ x = get start := by
  rw [bare]
  exact Option.map_eq_none_iff

end Codec

/-! ## Structures -/

/-- A structure made of fields that refuses members of other names. A first field that has to be
there is always written; the others are left out if they hold what they hold at the start. -/
structure Form (σ : Type) where
  layout : Layout Datum σ
  start : σ
  fields : List (Field σ)
  strict : layout.strict = true
  readers : layout.readers = (fields.map Field.toSlot).map Slot.reader
  lawful : Slots.Lawful (fields.map Field.toSlot)
  first_shown : ∀ f, layout.needsFirst = true → fields.head? = some f → ∀ x, f.shows x ≠ none
  left_out : ∀ f ∈ fields, layout.needsFirst = true ∧ fields.head? = some f ∨
    ∀ x, f.shows x = none ↔ x = f.get start

namespace Form

variable {σ : Type} (F : Form σ)

/-- The names of the fields. -/
def names : List String := F.fields.map (·.name)

/-- The members as which a structure is written. -/
def members (t : σ) : List (String × Json) :=
  F.fields.filterMap fun f => (f.shows (f.get t)).map fun v => (f.name, v)

/-- The object as which a structure is written. -/
def encode (t : σ) : Json := .object (F.members t)

/-- Members of different names, each presented to the field of its name. -/
structure Presented (members : List (String × Json)) : Prop where
  distinct : (members.map (·.1)).Nodup
  presented : ∀ f ∈ F.fields, ∀ v, Dict.find? f.name members = some v → f.Presented v

/-- Members that a structure can be read from: none of strange names, each admitted by the field
of its name, and the first field is there where it has to be. -/
structure WellFormed (members : List (String × Json)) : Prop where
  known : ∀ name ∈ members.map (·.1), name ∈ F.names
  first : ∀ f, F.layout.needsFirst = true → F.fields.head? = some f → f.name ∈ members.map (·.1)
  admitted : ∀ f ∈ F.fields, ∀ v, Dict.find? f.name members = some v → f.Admits v

theorem nodup_names : F.names.Nodup := by
  have distinct := F.lawful.distinct
  rw [List.map_map] at distinct
  exact distinct

theorem mem_toSlot {f : Field σ} (hf : f ∈ F.fields) : f.toSlot ∈ F.fields.map Field.toSlot :=
  List.mem_map_of_mem hf

theorem nodup_members (t : σ) : ((F.members t).map (·.1)).Nodup := by
  refine List.pairwise_map.2 (List.Pairwise.filterMap _ ?_ (List.pairwise_map.1 F.nodup_names))
  intro f g ne e he e' he'
  obtain ⟨v, _, rfl⟩ := Option.map_eq_some_iff.1 he
  obtain ⟨w, _, rfl⟩ := Option.map_eq_some_iff.1 he'
  exact ne

theorem mem_members_iff {t : σ} {e : String × Json} :
    e ∈ F.members t ↔ ∃ f ∈ F.fields, f.shows (f.get t) = some e.2 ∧ f.name = e.1 := by
  rw [members, List.mem_filterMap]
  refine exists_congr fun f => and_congr_right fun _ => ?_
  rw [Option.map_eq_some_iff]
  constructor
  · rintro ⟨v, hv, rfl⟩
    exact ⟨hv, rfl⟩
  · rintro ⟨hv, hn⟩
    exact ⟨e.2, hv, Prod.ext hn rfl⟩

theorem find?_members {t : σ} {f : Field σ} (hf : f ∈ F.fields) :
    Dict.find? f.name (F.members t) = f.shows (f.get t) := by
  ext v
  rw [Dict.find?_eq_some_iff (F.nodup_members t), mem_members_iff]
  constructor
  · rintro ⟨g, hg, shown, same⟩
    obtain rfl := List.inj_on_of_nodup_map F.nodup_names hg hf same
    exact shown
  · intro shown
    exact ⟨f, hf, shown, rfl⟩

theorem find?_members_of_unknown {t : σ} {name : String} (unknown : name ∉ F.names) :
    Dict.find? name (F.members t) = none := by
  rw [Dict.find?_eq_none_iff, List.mem_map]
  rintro ⟨e, he, rfl⟩
  obtain ⟨f, hf, _, same⟩ := F.mem_members_iff.1 he
  exact unknown (List.mem_map.2 ⟨f, hf, same⟩)

variable {F} {ms : List (String × Json)} {t : σ}

theorem wellFormed_iff (distinct : (ms.map (·.1)).Nodup) :
    F.WellFormed ms ↔
      (∀ f, F.layout.needsFirst = true → F.fields.head? = some f → f.name ∈ ms.map (·.1)) ∧
        ∀ e ∈ ms, ∃ f ∈ F.fields, f.name = e.1 ∧ f.Admits e.2 := by
  constructor
  · rintro ⟨known, first, admitted⟩
    refine ⟨first, fun e he => ?_⟩
    obtain ⟨f, hf, same⟩ := List.mem_map.1 (known e.1 (List.mem_map_of_mem he))
    have found : Dict.find? f.name ms = some e.2 := (Dict.find?_eq_some_iff distinct).2 (same ▸ he)
    exact ⟨f, hf, same, admitted f hf e.2 found⟩
  · rintro ⟨first, admitted⟩
    refine ⟨fun name hn => ?_, first, fun f hf v found => ?_⟩
    · obtain ⟨e, he, rfl⟩ := List.mem_map.1 hn
      obtain ⟨f, hf, same, _⟩ := admitted e he
      exact List.mem_map.2 ⟨f, hf, same⟩
    · obtain ⟨g, hg, same, admits⟩ := admitted _ ((Dict.find?_eq_some_iff distinct).1 found)
      obtain rfl := List.inj_on_of_nodup_map F.nodup_names hg hf same
      exact admits

/-- A structure is read from members of different names exactly if these fill its fields. -/
theorem ofMembers_eq_ok_iff_fill (distinct : (ms.map (·.1)).Nodup) :
    F.layout.ofMembers none F.start (Datum.ofMembers ms) = .ok t ↔
      (∀ name ∈ ms.map (·.1), name ∈ F.names) ∧
        (∀ f, F.layout.needsFirst = true → F.fields.head? = some f → f.name ∈ ms.map (·.1)) ∧
          ∀ f ∈ F.fields, f.toSlot.Filled (Datum.ofMembers ms) F.start t := by
  have slotNames : (F.fields.map Field.toSlot).map (·.name) = F.names := List.map_map
  rw [Slots.ofMembers_eq_ok_iff F.readers F.lawful (Datum.names_ofMembers ms ▸ distinct)]
  constructor
  · rintro ⟨known, first, filled⟩
    rw [slotNames, Datum.names_ofMembers] at known
    rw [Datum.names_ofMembers] at first
    refine ⟨known F.strict, fun f needed head => ?_, fun f hf => filled _ (F.mem_toSlot hf)⟩
    have placed := first f.toSlot needed (by rw [List.head?_map, head, Option.map_some])
    exact placed.resolve_left List.not_mem_nil
  · rintro ⟨known, first, filled⟩
    refine ⟨fun _ => ?_, fun f needed head => .inr ?_, fun f hf => ?_⟩
    · rw [slotNames, Datum.names_ofMembers]
      exact known
    · rw [List.head?_map, Option.map_eq_some_iff] at head
      obtain ⟨g, head, rfl⟩ := head
      rw [Datum.names_ofMembers]
      exact first g needed head
    · obtain ⟨g, hg, rfl⟩ := List.mem_map.1 hf
      exact filled g hg

/-- A field is filled from a member that it admits and that is, up to order and nulls, the one that
it is written as. -/
theorem filled_iff (presented : F.Presented ms) {f : Field σ} (hf : f ∈ F.fields)
    (placed : F.layout.needsFirst = true → F.fields.head? = some f → f.name ∈ ms.map (·.1)) :
    f.toSlot.Filled (Datum.ofMembers ms) F.start t ↔
      (∀ v, Dict.find? f.name ms = some v → f.Admits v) ∧
        (f.shows (f.get t)).map Json.sorted = (Dict.find? f.name ms).bind Json.normal? := by
  have looked := Datum.find?_ofMembers f.name ms
  cases found : Dict.find? f.name ms with
  | none =>
    rw [found] at looked
    -- A first field that is needed is in its place, so this is one that may be left out.
    have leftOut := (F.left_out f hf).resolve_left fun ⟨needed, head⟩ =>
      Dict.find?_eq_none_iff.1 found (placed needed head)
    rw [Slot.filled_of_absent looked, ← leftOut]
    simp
  | some v =>
    rw [found] at looked
    rw [Slot.filled_of_present looked, f.read_eq_ok_iff (presented.presented f hf v found)]
    simp

/-- A structure is read from members exactly if they are well-formed and it is written as the same
members, up to their order and to nulls. -/
theorem ofMembers_eq_ok_iff (presented : F.Presented ms) :
    F.layout.ofMembers none F.start (Datum.ofMembers ms) = .ok t ↔
      F.WellFormed ms ∧ (F.encode t).sorted = (Json.object ms).withoutNulls.sorted := by
  rw [ofMembers_eq_ok_iff_fill presented.distinct, encode,
    Json.sorted_object_eq_withoutNulls_iff (F.nodup_members t) presented.distinct]
  constructor
  · rintro ⟨known, placed, filled⟩
    have law := fun f hf => (filled_iff presented hf (placed f)).1 (filled f hf)
    refine ⟨⟨known, placed, fun f hf => (law f hf).1⟩, fun name => ?_⟩
    by_cases named : name ∈ F.names
    · obtain ⟨f, hf, rfl⟩ := List.mem_map.1 named
      rw [F.find?_members hf, (law f hf).2]
    · have absent := Dict.find?_eq_none_iff.2 (mt (known name) named)
      rw [F.find?_members_of_unknown named, absent]
      rfl
  · rintro ⟨⟨known, placed, admitted⟩, same⟩
    refine ⟨known, placed, fun f hf => ?_⟩
    have shown := same f.name
    rw [F.find?_members hf] at shown
    exact (filled_iff presented hf (placed f)).2 ⟨admitted f hf, shown⟩

/-- A structure can be read from well-formed members. -/
theorem exists_ofMembers (presented : F.Presented ms) (wellFormed : F.WellFormed ms) :
    ∃ t, F.layout.ofMembers none F.start (Datum.ofMembers ms) = .ok t := by
  have readable : ∀ f ∈ F.fields.map Field.toSlot, ∀ d,
      Dict.find? f.name (Datum.ofMembers ms) = some d → ∃ x, f.read d = .ok x := by
    intro f hf d found
    obtain ⟨g, hg, rfl⟩ := List.mem_map.1 hf
    rw [Datum.find?_ofMembers, Option.map_eq_some_iff] at found
    obtain ⟨v, found, rfl⟩ := found
    exact g.exists_read (presented.presented g hg v found) (wellFormed.admitted g hg v found)
  obtain ⟨t, filled⟩ : ∃ t, ∀ f ∈ F.fields.map Field.toSlot,
    f.Filled (Datum.ofMembers ms) F.start t := F.lawful.exists_filled readable
  exact ⟨t, (ofMembers_eq_ok_iff_fill presented.distinct).2
    ⟨wellFormed.known, wellFormed.first, fun f hf => filled _ (F.mem_toSlot hf)⟩⟩

/-- A structure is read from its own members, in whatever order they and the members inside
them stand. -/
theorem ofMembers_eq_ok (distinct : (ms.map (·.1)).Nodup)
    (same : ∀ name, Dict.find? name ms = Dict.find? name (F.members t) ∨
      Dict.find? name ms = (Dict.find? name (F.members t)).map Json.sorted) :
    F.layout.ofMembers none F.start (Datum.ofMembers ms) = .ok t := by
  have absent_iff : ∀ name, Dict.find? name ms = none ↔ Dict.find? name (F.members t) = none := by
    intro name
    rcases same name with h | h <;> simp [h]
  refine (ofMembers_eq_ok_iff_fill distinct).2 ⟨fun name named => ?_, fun f needed head => ?_,
    fun f hf => ?_⟩
  · by_contra unknown
    have absent := (absent_iff name).2 (F.find?_members_of_unknown unknown)
    exact Dict.find?_eq_none_iff.1 absent named
  · by_contra unplaced
    have absent := (absent_iff f.name).1 (Dict.find?_eq_none_iff.2 unplaced)
    rw [F.find?_members (List.mem_of_head? head)] at absent
    exact F.first_shown f needed head _ absent
  · -- Nothing is shown of a field that is as at the start, and what is shown is read back.
    have looked := Datum.find?_ofMembers f.name ms
    have held := same f.name
    rw [F.find?_members hf] at held
    cases shown : f.shows (f.get t) with
    | none =>
      rw [shown, Option.map_none, or_self] at held
      rw [held] at looked
      refine (Slot.filled_of_absent looked).2 ?_
      exact (((F.left_out f hf).resolve_left fun ⟨needed, head⟩ =>
        F.first_shown f needed head _ shown) _).1 shown
    | some v =>
      rw [shown] at held
      rcases held with held | held
      · rw [held] at looked
        exact (Slot.filled_of_present looked).2 (f.read_shows shown)
      · rw [held] at looked
        exact (Slot.filled_of_present looked).2 (f.read_sorted_shows shown)

/-- A structure is read from the object that it is written as. -/
theorem ofMembers_members (t : σ) :
    F.layout.ofMembers none F.start (Datum.ofMembers (F.members t)) = .ok t :=
  ofMembers_eq_ok (F.nodup_members t) fun _ => .inl rfl

/-- It is also read from this object with its members in ascending order. -/
theorem readStructure_sorted_encode (c : Conventions) (t : σ) :
    Datum.readStructure c F.layout F.start (.ofJson (F.encode t).sorted) = .ok t := by
  rw [encode, Json.sorted, Json.sortMembers, Datum.ofJson, Datum.readStructure]
  refine ofMembers_eq_ok (Dict.nodup_names _) fun name => .inr ?_
  have distinct : ((Json.sortedMembers (F.members t)).map (·.1)).Nodup :=
    Json.names_sortedMembers (F.members t) ▸ F.nodup_members t
  rw [← Json.find?_sortedMembers]
  exact Dict.get?_ofList distinct name

/-- The codec of a structure in a format. -/
def codec (F : Form σ) (c : Conventions) : Codec σ where
  read := Datum.readStructure c F.layout F.start
  encode := F.encode
  Presented := fun v => ∃ ms, v = .object ms ∧ F.Presented ms
  Admits := fun v => ∃ ms, v = .object ms ∧ F.WellFormed ms
  encode_ne_null := fun _ => Json.noConfusion
  read_encode := ofMembers_members
  read_sorted_encode := readStructure_sorted_encode c
  exists_read := by
    rintro _ ⟨ms, rfl, presented⟩ ⟨_, same, wellFormed⟩
    cases same
    exact exists_ofMembers presented wellFormed
  read_eq_ok_iff := by
    rintro _ t ⟨ms, rfl, presented⟩
    refine (ofMembers_eq_ok_iff presented).trans (and_congr_left fun _ => ?_)
    exact ⟨fun wellFormed => ⟨ms, rfl, wellFormed⟩, fun ⟨_, same, wellFormed⟩ =>
      Json.object.inj same ▸ wellFormed⟩

end Form

end SdnZones
