-- SUMMARY: A record that is read as a zone and laid out again is cut down to what zones manage.
import SdnZones.Proofs.Zone.Update

/-!
# From a record to a zone and back

A record can be read exactly if its kind is one of those that can be configured. Laid out again it
has lost the attributes of other kinds and the empty elements of its lists (`Record.projected`),
and nothing is lost by doing so once more (`Zone.record_projection`).
-/

namespace SdnZones

/-! ## Lists -/

namespace CommaList

/-- A comma list without its empty elements; one that has no other elements is absent. -/
def tidied : Option String → Option String
  | some text =>
    match (Text.splitString ',' text).filter (!·.isEmpty) with
    | [] => none
    | kept => some (Text.joinWith "," kept)
  | none => none

theorem join_elements (text : Option String) : join (Record.elements text) = tidied text := by
  cases text with
  | none => rfl
  | some text =>
    rw [elements_some, filled?, tidied]
    cases (Text.splitString ',' text).filter (!·.isEmpty) <;> rfl

/-- A list that a comma list carries unchanged has a text without empty pieces. -/
theorem strays_of_faithful {values : Option (List String)} (h : Faithful values) :
    strays values = false := by
  cases values with
  | none => rfl
  | some vs =>
    obtain ⟨ne, hvs⟩ := h vs rfl
    cases vs with
    | nil => exact absurd rfl ne
    | cons v vs =>
      have pieces : Text.splitString ',' (Text.joinWith "," (v :: vs)) = v :: vs :=
        Text.splitString_joinWith_of_not_mem rfl ne fun w hw => (hvs w hw).2
      have filled : "" ∉ v :: vs := fun empty => (hvs "" empty).1 rfl
      simp only [strays, join, pieces, List.contains_eq_mem, filled, decide_false, Bool.and_false]

end CommaList

/-! ## Kinds -/

/-- The kinds of zones that can be configured. -/
def ZoneKind.configurable : List ZoneKind := [simple, vlan, vxlan, qinq, evpn]

theorem ZoneKind.mem_configurable_iff {k : ZoneKind} : k ∈ configurable ↔ k ≠ faucet := by
  cases k <;> decide

/-! ## Records -/

namespace Record

variable {r s : Record} {k : ZoneKind} {b : Block}

/-- The values of a record, its lists without empty elements. -/
def tidiedValue (r : Record) : (a : Attribute) → Option a.Value
  | .nodes => CommaList.tidied (r.value .nodes)
  | .peers => CommaList.tidied (r.value .peers)
  | .exitNodes => CommaList.tidied (r.value .exitNodes)
  | a => r.value a

/-- A record cut down to the attributes of zones of a kind, its lists without empty elements. -/
def projected (r : Record) (k : ZoneKind) : Record where
  zone := r.zone
  kind := r.kind
  value := fun a => if a ∈ Attribute.common ++ k.attributes then r.tidiedValue a else none

/-- Records of the same zone and kind that agree on the attributes of that kind. -/
structure Agrees (r s : Record) : Prop where
  zone : r.zone = s.zone
  kind : r.kind = s.kind
  value : ∀ k : ZoneKind, r.kind = some k.name →
    ∀ a ∈ Attribute.common ++ k.attributes, r.value a = s.value a

theorem block?_eq_none_iff : r.block? k = none ↔ k = .faucet := by
  cases k <;> simp [block?]

/-- The only problem with a record is its kind. -/
theorem eq_unknownKind_of_described {problem : Zone.Problem} (h : r.described = .error problem) :
    problem = .unknownKind (r.kind.getD "") := by
  simp only [described] at h
  split at h
  · exact (Except.error.inj h).symm
  · split at h
    · exact (Except.error.inj h).symm
    · cases h

/-- Only a record of a kind that can be configured describes a block. -/
theorem described_eq_error_iff {problem : Zone.Problem} :
    r.described = .error problem ↔
      (∀ k ∈ ZoneKind.configurable, r.kind ≠ some k.name) ∧
        problem = .unknownKind (r.kind.getD "") := by
  constructor
  · intro h
    refine ⟨fun k configurable kind => ?_, eq_unknownKind_of_described h⟩
    obtain ⟨b, block⟩ : ∃ b, r.block? k = some b := Option.ne_none_iff_exists'.1 fun none =>
      ZoneKind.mem_configurable_iff.1 configurable (block?_eq_none_iff.1 none)
    rw [described_eq_ok_iff.2 ⟨kind, block⟩] at h
    cases h
  · rintro ⟨other, rfl⟩
    cases h : r.described with
    | error problem => rw [eq_unknownKind_of_described h]
    | ok found =>
      obtain ⟨k, b⟩ := found
      obtain ⟨kind, block⟩ := described_eq_ok_iff.1 h
      have configurable : k ∈ ZoneKind.configurable := ZoneKind.mem_configurable_iff.2 <| by
        rintro rfl
        cases block
      exact absurd kind (other k configurable)

/-- The block of a record gives back the values that it was read from, tidied. -/
theorem value_block? (h : r.block? k = some b) {a : Attribute} (own : a ∈ k.attributes) :
    b.value a = r.tidiedValue a := by
  cases k with
  | faucet => cases h
  | simple =>
    obtain rfl := Option.some.inj h
    cases a <;> first | rfl | exact absurd own (by decide)
  | vlan =>
    obtain rfl := Option.some.inj h
    cases a <;> first | rfl | exact absurd own (by decide)
  | qinq =>
    obtain rfl := Option.some.inj h
    cases a <;> first | rfl | exact absurd own (by decide)
  | vxlan =>
    obtain rfl := Option.some.inj h
    cases a <;> first | rfl | exact CommaList.join_elements _ | exact absurd own (by decide)
  | evpn =>
    obtain rfl := Option.some.inj h
    cases a <;> first | rfl | exact CommaList.join_elements _ | exact absurd own (by decide)

/-- The comma lists that are read from a record are attributes of its kind. -/
theorem commaLists_congr (value : ∀ a ∈ Attribute.common ++ k.attributes, r.value a = s.value a) :
    r.commaLists k = s.commaLists k := by
  have nodes : r.value .nodes = s.value .nodes := value .nodes (by simp [Attribute.common])
  cases k with
  | vxlan =>
    have peers : r.value .peers = s.value .peers := value .peers (by decide)
    simp only [commaLists, nodes, peers]
  | evpn =>
    have exitNodes : r.value .exitNodes = s.value .exitNodes := value .exitNodes (by decide)
    simp only [commaLists, nodes, exitNodes]
  | _ => simp only [commaLists, nodes]

namespace Agrees

theorem described (h : Agrees r s) : r.described = s.described := by
  cases read : r.described with
  | ok found =>
    obtain ⟨k, b⟩ := found
    obtain ⟨kind, block⟩ := described_eq_ok_iff.1 read
    have same : r.block? k = s.block? k := block?_congr fun a own =>
      h.value k kind a (List.mem_append_right _ own)
    exact (described_eq_ok_iff.2 ⟨h.kind ▸ kind, same ▸ block⟩).symm
  | error problem =>
    rw [described_eq_error_iff, h.kind] at read
    exact (described_eq_error_iff.2 read).symm

/-- Records that agree are read as the same zone. -/
theorem ofRecord? (h : Agrees r s) : Zone.ofRecord? r = Zone.ofRecord? s := by
  cases read : r.described with
  | ok found =>
    obtain ⟨k, b⟩ := found
    obtain ⟨kind, _⟩ := described_eq_ok_iff.1 read
    exact Zone.ofRecord?_congr h.zone kind (h.kind ▸ kind) (h.value k kind)
  | error problem =>
    have unread : s.described = .error problem := h.described ▸ read
    rw [Zone.ofRecord?, Zone.ofRecord?, read, unread]
    rfl

/-- Reading records that agree gives the same warnings. -/
theorem strayCommas (h : Agrees r s) : r.strayCommas = s.strayCommas := by
  rw [Record.strayCommas, Record.strayCommas, ← h.described]
  cases read : r.described with
  | ok found =>
    obtain ⟨k, b⟩ := found
    simp only [commaLists_congr (h.value k (described_eq_ok_iff.1 read).1)]
  | error problem => rfl

end Agrees

end Record

/-! ## Zones -/

namespace Zone

variable {r : Record} {k : ZoneKind} {z : Zone}

theorem ofRecord?_eq_error_iff {problem : Problem} :
    ofRecord? r = .error problem ↔
      (∀ k ∈ ZoneKind.configurable, r.kind ≠ some k.name) ∧
        problem = .unknownKind (r.kind.getD "") := by
  rw [← Record.described_eq_error_iff, ofRecord?]
  cases r.described <;> simp [Except.map]

/-- A zone that was read can be sent: no element of its lists holds a comma. -/
theorem ReadFrom.unsendable_eq_nil (h : ReadFrom r z) : z.unsendable = [] := by
  refine unsendable_eq_nil_of_sendable ((hasError_unsendable_eq_false_iff z).2 fun v hv => ?_)
  obtain ⟨l, hl, hv⟩ := mem_elements_iff.1 hv
  cases values : l.2 with
  | none =>
    rw [values] at hv
    cases hv
  | some vs =>
    rw [values] at hv
    exact ((h.faithful l hl vs values).2 v hv).2

/-- A zone that was read is read again without a warning. -/
theorem ReadFrom.strayCommas_eq_nil (h : ReadFrom r z) : z.toRecord.strayCommas = [] := by
  obtain ⟨_, b, _, _, hb⟩ := h.block
  rw [strayCommas_toRecord hb, List.map_eq_nil_iff, List.filter_eq_nil_iff]
  intro l hl
  rw [CommaList.strays_of_faithful (h.faithful l (List.mem_reverse.1 hl))]
  exact Bool.false_ne_true

/-- A zone that was read gives back the common values of its record, tidied. -/
theorem value_of_common (read : ofRecord? r = .ok z) {a : Attribute} (h : a ∈ Attribute.common) :
    z.value a = r.tidiedValue a := by
  rw [ofRecord?] at read
  cases described : r.described with
  | error problem =>
    rw [described] at read
    cases read
  | ok found =>
    rw [described] at read
    cases read
    cases a <;> first | rfl | exact CommaList.join_elements _ | exact absurd h (by decide)

/-- The record of a zone that was read is what zones of its kind manage of the record that it was
read from. -/
theorem toRecord_eq_projected (read : ofRecord? r = .ok z) (kind : r.kind = some k.name) :
    z.toRecord = r.projected k := by
  have readFrom := readFrom_of_ok read
  have zoneKind : z.kind = some k := readFrom.recordKind kind
  refine Record.ext_value readFrom.name ((kind_toRecord zoneKind).trans kind.symm) fun a => ?_
  show z.value a = if a ∈ Attribute.common ++ k.attributes then r.tidiedValue a else none
  rw [← managed_of_kind zoneKind]
  by_cases managed : a ∈ z.managed
  · rw [if_pos managed]
    by_cases common : a ∈ Attribute.common
    · exact value_of_common read common
    · obtain ⟨own, b, recordKind, block, hb⟩ := readFrom.block
      obtain rfl : own = k := by
        rw [Zone.kind, hb, Option.map_some, Record.kind_block? block] at zoneKind
        exact Option.some.inj zoneKind
      rw [managed_of_kind zoneKind] at managed
      rw [value_of_not_common common, hb, Option.bind_some]
      exact Record.value_block? block ((List.mem_append.1 managed).resolve_left common)
  · rw [if_neg managed, value_eq_none managed]

/-- A record is read exactly if its kind can be configured. Laid out again it is what zones of that
kind manage of it, its lists without empty elements, and reading that gives the same zone without
a word. What is read, and what is said about it, depends on nothing else in the record. -/
theorem record_projection (r : Record) :
    (∀ problem, ofRecord? r = .error problem ↔
      (∀ k ∈ ZoneKind.configurable, r.kind ≠ some k.name) ∧
        problem = .unknownKind (r.kind.getD "")) ∧
    (∀ k ∈ ZoneKind.configurable, r.kind = some k.name →
      ∃ z, ofRecord? r = .ok z ∧ z.unsendable = [] ∧ z.toRecord = r.projected k ∧
        ofRecord? z.toRecord = .ok z ∧ z.toRecord.strayCommas = []) ∧
    ∀ s, r.Agrees s → ofRecord? r = ofRecord? s ∧ r.strayCommas = s.strayCommas := by
  refine ⟨fun _ => ofRecord?_eq_error_iff, fun k configurable kind => ?_,
    fun s agrees => ⟨agrees.ofRecord?, agrees.strayCommas⟩⟩
  cases read : ofRecord? r with
  | error problem => exact absurd kind ((ofRecord?_eq_error_iff.1 read).1 k configurable)
  | ok z =>
    have readFrom := readFrom_of_ok read
    obtain ⟨_, _, _, _, hb⟩ := readFrom.block
    have again : ofRecord? z.toRecord = .ok z := by
      rw [ofRecord?_toRecord hb, readFrom.mapLists_carried]
    exact ⟨z, rfl, readFrom.unsendable_eq_nil, toRecord_eq_projected read kind, again,
      readFrom.strayCommas_eq_nil⟩

/-- The tag of another kind is lost, and so are the empty elements of a list. -/
theorem vxlan_record_projection :
    let r : Record := {
      zone := "zone1"
      kind := some "vxlan"
      value := fun
        | .nodes => some ",pve1,,pve2"
        | .peers => some ","
        | .tag => some (7 : Int32)
        | _ => none }
    ∃ z, ofRecord? r = .ok z ∧ z.toRecord.value .nodes = some "pve1,pve2" ∧
      z.toRecord.value .peers = none ∧ z.toRecord.value .tag = none ∧
      ofRecord? z.toRecord = .ok z ∧ z.toRecord.strayCommas = [] := by
  intro r
  obtain ⟨z, read, _, projected, again, quiet⟩ :=
    (record_projection r).2.1 .vxlan (by decide) rfl
  have nodes : CommaList.tidied (some ",pve1,,pve2") = some "pve1,pve2" := by decide
  have peers : CommaList.tidied (some ",") = none := by decide
  have held : ∀ a, z.toRecord.value a = (r.projected .vxlan).value a := fun a => by rw [projected]
  exact ⟨z, read, (held .nodes).trans nodes, (held .peers).trans peers, held .tag, again, quiet⟩

end Zone

end SdnZones
