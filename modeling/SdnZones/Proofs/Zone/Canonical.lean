-- SUMMARY: Records survive encoding, and decoded members are encoded again in their canonical form.
import SdnZones.Proofs.Zone.Record

/-!
# Canonical records

A record may be written in several ways: with members that mean nothing, with nulls in place of
absent fields, with flags as words and integers as numerals. However it is written, it is decoded
to the same record, and the encoding of this record is the canonical way to write it
(`Record.encoding_canonical`).
-/

namespace SdnZones

/-! ## Canonical values -/

namespace ValueKind

/-- The canonical form of a value on the wire: a flag is `0` or `1`, an integer is a number, and
an absent value is left out. -/
def canonical? : ValueKind → Json → Option Json
  | _, .null => none
  | flag, .bool b => some (.int (if b then 1 else 0))
  | flag, .text s => (truthOfWord? s).map fun b => .int (if b then 1 else 0)
  | integer, .text s =>
    ((Numeral.int? 10 (Text.trim s.toList)).bind Numeral.toInt32?).map fun n => .int n.toInt
  | _, v => some v

theorem canonical?_of_decodeText {v : Json} {x : Option String} (h : decodeText v = .ok x) :
    text.canonical? v = x.map text.encode := by
  cases v <;> cases h <;> rfl

theorem canonical?_of_decodeFlag {v : Json} {x : Option Bool} (h : decodeFlag v = .ok x) :
    flag.canonical? v = x.map flag.encode := by
  cases v with
  | null | bool => cases h; rfl
  | int i =>
    rw [decodeFlag] at h
    split at h
    · cases h; subst_vars; rfl
    · split at h
      · cases h; subst_vars; rfl
      · cases h
  | text s =>
    rw [decodeFlag] at h
    rw [canonical?]
    cases word : truthOfWord? s with
    | none => rw [word] at h; cases h
    | some b => rw [word] at h; cases h; rfl
  | float | array | object => cases h

theorem canonical?_of_decodeInteger {v : Json} {x : Option Int32} (h : decodeInteger v = .ok x) :
    integer.canonical? v = x.map integer.encode := by
  cases v with
  | null => cases h; rfl
  | int i =>
    rw [decodeInteger] at h
    cases fits : Numeral.toInt32? i with
    | none => rw [fits] at h; cases h
    | some n =>
      rw [fits] at h
      cases h
      rw [Numeral.toInt32?_eq_some_iff.1 fits]
      rfl
  | text s =>
    rw [decodeInteger] at h
    rw [canonical?]
    cases numeral : (Numeral.int? 10 (Text.trim s.toList)).bind Numeral.toInt32? with
    | none => rw [numeral] at h; cases h
    | some n => rw [numeral] at h; cases h; rfl
  | bool | float | array | object => cases h

/-- What a value was read from has the encoding of the value as its canonical form. -/
theorem canonical?_of_decode {k : ValueKind} {v : Json} {x : Option k.Value}
    (h : k.decode v = .ok x) : k.canonical? v = x.map k.encode := by
  cases k with
  | text => exact canonical?_of_decodeText h
  | flag => exact canonical?_of_decodeFlag h
  | integer => exact canonical?_of_decodeInteger h

theorem canonical?_of_decodeField {k : ValueKind} {v : Option Json} {x : Option k.Value}
    (h : k.decodeField v = .ok x) : v.bind k.canonical? = x.map k.encode := by
  cases v with
  | none => cases h; rfl
  | some v => exact canonical?_of_decode h

/-- Only a null is decoded to nothing. -/
theorem eq_null_of_decode {k : ValueKind} {v : Json} (h : k.decode v = .ok none) : v = .null := by
  cases k with
  | text =>
    cases v with
    | null => rfl
    | _ => cases h
  | flag =>
    cases v with
    | null => rfl
    | int i =>
      change decodeFlag (.int i) = _ at h
      rw [decodeFlag] at h
      split_ifs at h <;> cases h
    | text s =>
      change decodeFlag (.text s) = _ at h
      rw [decodeFlag] at h
      split at h <;> cases h
    | _ => cases h
  | integer =>
    cases v with
    | null => rfl
    | int i =>
      change decodeInteger (.int i) = _ at h
      rw [decodeInteger] at h
      split at h <;> cases h
    | text s =>
      change decodeInteger (.text s) = _ at h
      rw [decodeInteger] at h
      split at h <;> cases h
    | _ => cases h

theorem decode_null (k : ValueKind) : k.decode .null = .ok none := by cases k <;> rfl

end ValueKind

namespace Record

/-! ## Members of records -/

/-- What the values under a name are. -/
def valueKind? (name : String) : Option ValueKind :=
  if name = "zone" ∨ name = "type" then some .text
  else (Attribute.ofWireName? name).map Attribute.kind

theorem valueKind?_eq_none_iff {name : String} : valueKind? name = none ↔ name ∉ wireNames := by
  have unnamed : Attribute.ofWireName? name = none ↔ ∀ a : Attribute, a.wireName ≠ name := by
    rw [Option.eq_none_iff_forall_ne_some]
    exact forall_congr' fun a => not_congr Attribute.ofWireName?_eq_some_iff
  rw [valueKind?, mem_wireNames_iff, ← or_assoc, not_or, not_exists]
  split_ifs with reserved
  · simp [reserved]
  · simp [reserved, unnamed]

/-- The canonical form of the member of a name; nothing is left of members of strange names. -/
def canonicalMember? (name : String) (v : Json) : Option Json :=
  (valueKind? name).bind fun k => k.canonical? v

/-- Members that write out a record: all of its own, and beside them only some of names that
records do not have, and nulls under names that this one leaves out. -/
structure WrittenAs (r : Record) (members : List (String × Json)) : Prop where
  distinct : (members.map (·.1)).Nodup
  own : ∀ e ∈ r.members, e ∈ members
  other : ∀ e ∈ members, e ∈ r.members ∨ e.1 ∉ wireNames ∨ r.fields.get? e.1 = none ∧ e.2 = .null

variable {r : Record} {members : List (String × Json)}

theorem get?_fields_eq_some_iff {name : String} {v : Json} :
    r.fields.get? name = some v ↔ (name, v) ∈ r.members := by
  rw [fields, Dict.get?_ofList r.nodup_members, Dict.find?_eq_some_iff r.nodup_members]

/-! ## Decoding what is written -/

theorem writtenAs_members (r : Record) : r.WrittenAs r.members :=
  ⟨r.nodup_members, fun _ he => he, fun _ he => .inl he⟩

/-- Each field can be read from the members that write the record out. -/
theorem WrittenAs.decodeField (written : r.WrittenAs members) {name : String}
    (known : name ∈ wireNames) {k : ValueKind} {x : Option k.Value}
    (held : r.fields.get? name = x.map k.encode) :
    k.decodeField (Dict.find? name members) = .ok x := by
  cases found : Dict.find? name members with
  | none =>
    -- All that the record holds is among the members.
    have absent : r.fields.get? name = none := by
      by_contra present
      obtain ⟨v, hv⟩ := Option.ne_none_iff_exists'.1 present
      have there := written.own _ (get?_fields_eq_some_iff.1 hv)
      rw [(Dict.find?_eq_some_iff written.distinct).2 there] at found
      cases found
    rw [absent, eq_comm, Option.map_eq_none_iff] at held
    rw [held]
    rfl
  | some v =>
    rcases written.other _ ((Dict.find?_eq_some_iff written.distinct).1 found) with
      own | strange | ⟨absent, rfl⟩
    · rw [get?_fields_eq_some_iff.2 own, eq_comm, Option.map_eq_some_iff] at held
      obtain ⟨y, rfl, rfl⟩ := held
      exact k.decode_encode y
    · exact absurd known strange
    · rw [absent, eq_comm, Option.map_eq_none_iff] at held
      rw [held]
      exact k.decode_null

/-- A record is decoded from whatever members write it out. -/
theorem ofJson_of_writtenAs (written : r.WrittenAs members) : ofJson (.object members) = .ok r := by
  refine (ofJson_object_eq_ok_iff written.distinct).2 ⟨?_, ?_, fun a => ?_⟩
  · have own := written.own _ (get?_fields_eq_some_iff.1 r.get?_fields_zone)
    exact (Dict.find?_eq_some_iff written.distinct).2 own
  · exact written.decodeField (by decide) r.get?_fields_type
  · have known : a.wireName ∈ wireNames := mem_wireNames_iff.2 (.inr (.inr ⟨a, rfl⟩))
    exact written.decodeField known (r.get?_fields_wireName a)

/-! ## Encoding what was decoded -/

/-- A field holds the value that the member of its name was decoded to. -/
theorem exists_decodeField (distinct : (members.map (·.1)).Nodup)
    (decoded : ofJson (.object members) = .ok r) {name : String} {k : ValueKind}
    (known : valueKind? name = some k) :
    ∃ x, k.decodeField (Dict.find? name members) = .ok x ∧
      r.fields.get? name = x.map k.encode := by
  obtain ⟨zone, kind, value⟩ := (ofJson_object_eq_ok_iff distinct).1 decoded
  rw [valueKind?] at known
  split_ifs at known with reserved
  · obtain rfl := Option.some.inj known
    rcases reserved with rfl | rfl
    · rw [zone]
      exact ⟨some r.zone, rfl, r.get?_fields_zone⟩
    · exact ⟨r.kind, kind, r.get?_fields_type⟩
  · obtain ⟨a, ha, rfl⟩ := Option.map_eq_some_iff.1 known
    obtain rfl := Attribute.ofWireName?_eq_some_iff.1 ha
    exact ⟨r.value a, value a, r.get?_fields_wireName a⟩

/-- The encoding of a decoded record holds the canonical forms of the members. -/
theorem get?_fields_of_decoded (distinct : (members.map (·.1)).Nodup)
    (decoded : ofJson (.object members) = .ok r) (name : String) :
    r.fields.get? name = (Dict.find? name members).bind (canonicalMember? name) := by
  cases known : valueKind? name with
  | none =>
    rw [r.get?_fields_of_unknown (valueKind?_eq_none_iff.1 known), eq_comm,
      Option.bind_eq_none_iff]
    intro v _
    rw [canonicalMember?, known]
    rfl
  | some k =>
    obtain ⟨x, read, held⟩ := exists_decodeField distinct decoded known
    have canonical : canonicalMember? name = k.canonical? := funext fun v => by
      rw [canonicalMember?, known]
      rfl
    rw [held, canonical, ValueKind.canonical?_of_decodeField read]

/-- The encoding of a decoded record has the names of records under which there was something. -/
theorem mem_names_of_decoded (distinct : (members.map (·.1)).Nodup)
    (decoded : ofJson (.object members) = .ok r) (name : String) :
    name ∈ r.fields.names ↔
      name ∈ wireNames ∧ ∃ v, Dict.find? name members = some v ∧ v ≠ .null := by
  rw [Dict.mem_names_iff]
  cases known : valueKind? name with
  | none =>
    have strange := valueKind?_eq_none_iff.1 known
    simp [r.get?_fields_of_unknown strange, strange]
  | some k =>
    have named : name ∈ wireNames := by
      by_contra strange
      rw [valueKind?_eq_none_iff.2 strange] at known
      cases known
    obtain ⟨x, read, held⟩ := exists_decodeField distinct decoded known
    rw [held, Ne, Option.map_eq_none_iff]
    constructor
    · intro present
      refine ⟨named, ?_⟩
      cases found : Dict.find? name members with
      | none =>
        rw [found] at read
        cases read
        exact absurd rfl present
      | some v =>
        refine ⟨v, rfl, ?_⟩
        rintro rfl
        rw [found] at read
        exact present (Except.ok.inj (k.decode_null.symm.trans read)).symm
    · rintro ⟨_, v, found, filled⟩ rfl
      rw [found] at read
      exact filled (ValueKind.eq_null_of_decode read)

/-- The encoding of a decoded record holds texts, `0` and `1`, and numbers, as the names ask. -/
theorem exists_encode_of_decoded (distinct : (members.map (·.1)).Nodup)
    (decoded : ofJson (.object members) = .ok r) {name : String} {v : Json}
    (held : r.fields.get? name = some v) :
    ∃ k : ValueKind, valueKind? name = some k ∧ ∃ x, v = k.encode x := by
  cases known : valueKind? name with
  | none =>
    rw [r.get?_fields_of_unknown (valueKind?_eq_none_iff.1 known)] at held
    cases held
  | some k =>
    obtain ⟨x, _, encoded⟩ := exists_decodeField distinct decoded known
    rw [held, eq_comm, Option.map_eq_some_iff] at encoded
    obtain ⟨x, _, rfl⟩ := encoded
    exact ⟨k, rfl, x, rfl⟩

/-- A record is decoded from its encoding and from any members that write it out beside strange
ones and nulls. The encoding of whatever record was decoded from an object holds the canonical form
of each member that has one, under the names of records with something under them: texts, `0` and
`1` for flags, and numbers for integers. The record is decoded from it again. -/
theorem encoding_canonical :
    (∀ r : Record, ofJson r.toJson = .ok r ∧
      ∀ members, r.WrittenAs members → ofJson (.object members) = .ok r) ∧
    ∀ (members : List (String × Json)) (r : Record), (members.map (·.1)).Nodup →
      ofJson (.object members) = .ok r →
        (∀ name, r.fields.get? name =
          (Dict.find? name members).bind (canonicalMember? name)) ∧
        (∀ name, name ∈ r.fields.names ↔
          name ∈ wireNames ∧ ∃ v, Dict.find? name members = some v ∧ v ≠ .null) ∧
        (∀ name v, r.fields.get? name = some v →
          ∃ k : ValueKind, valueKind? name = some k ∧ ∃ x, v = k.encode x) ∧
        ofJson (.ofDict r.fields) = .ok r :=
  ⟨fun r => ⟨ofJson_of_writtenAs r.writtenAs_members, fun _ written => ofJson_of_writtenAs written⟩,
    fun _ r distinct decoded => ⟨get?_fields_of_decoded distinct decoded,
      mem_names_of_decoded distinct decoded,
      fun _ _ held => exists_encode_of_decoded distinct decoded held, ofJson_fields r⟩⟩

/-- A word, a numeral, a null and a digest are not written again. -/
theorem evpn_encoding_canonical :
    let r : Record := (((named "evpn1").set .advertiseSubnets (some true)).set .ipam
      (some "pve")).set .vrfVxlan (some (10000 : Int32))
    let members : List (String × Json) := [
      ("advertise-subnets", .text "Yes"), ("digest", .text "0a1b"), ("ipam", .text "pve"),
      ("mtu", .null), ("vrf-vxlan", .text " 10000 "), ("zone", .text "evpn1")]
    let written : List (String × Json) := [
      ("vrf-vxlan", .int 10000), ("zone", .text "evpn1"), ("advertise-subnets", .int 1),
      ("mtu", .null), ("digest", .bool false), ("ipam", .text "pve")]
    r.WrittenAs written ∧ ofJson (.object written) = .ok r ∧
      (members.map (·.1)).Nodup ∧ ofJson (.object members) = .ok r ∧
      r.fields.get? "advertise-subnets" = some (.int 1) ∧
      r.fields.get? "vrf-vxlan" = some (.int 10000) ∧
      "mtu" ∉ r.fields.names ∧ "digest" ∉ r.fields.names ∧
      ofJson (.ofDict r.fields) = .ok r := by
  intro r members written
  have writes : r.WrittenAs written := ⟨by decide, by decide, by decide⟩
  have distinct : (members.map (·.1)).Nodup := by decide
  have decoded : ofJson (.object members) = .ok r :=
    (ofJson_object_eq_ok_iff distinct).2 ⟨rfl, rfl, fun a => by cases a <;> rfl⟩
  obtain ⟨canonical, names, _, again⟩ := encoding_canonical.2 members r distinct decoded
  refine ⟨writes, (encoding_canonical.1 r).2 written writes, distinct, decoded, ?_, ?_, ?_, ?_,
    again⟩
  · rw [canonical]; rfl
  · rw [canonical]; rfl
  · rw [names]; rintro ⟨_, v, found, filled⟩; exact filled (Option.some.inj found).symm
  · rw [names]; rintro ⟨known, _⟩; revert known; decide

end Record

end SdnZones
