-- SUMMARY: Every body that is sent to write a zone meets the schema of its kind.
import SdnZones.Proofs.Zone.Partition
import SdnZones.Proofs.Zone.Subjects

/-!
# What is written

The schema says what the body of a write has to look like, under the names of the wire and without
regard to how zones are configured (`ZoneKind.Admits`, `Zone.Fits`). Only accepted zones are
written, and the body of an accepted zone meets the schema (`Zone.Asks.writes`), so all that is sent
in a session does (`Session.writes_meet_schema`).
-/

namespace SdnZones

/-! ## The schema -/

/-- A field holds some text. -/
def HoldsText (body : Dict Json) (name : String) : Prop :=
  ∃ s, body.get? name = some (.text s)

/-- A field holds one of some texts. -/
def HoldsOneOf (body : Dict Json) (name : String) (allowed : List String) : Prop :=
  ∃ s ∈ allowed, body.get? name = some (.text s)

/-- A field holds an integer within bounds. -/
def HoldsWithin (body : Dict Json) (name : String) (low high : Int) : Prop :=
  ∃ i, body.get? name = some (.int i) ∧ low ≤ i ∧ i ≤ high

/-- Six pairs of hexadecimal digits with colons between them. -/
def MacAddress (s : String) : Prop :=
  ∃ pairs : List (List Char), s.toList = Text.join ':' pairs ∧ pairs.length = 6 ∧
    ∀ pair ∈ pairs, pair.length = 2 ∧ ∀ c ∈ pair, isHexDigit c = true

/-- What the fields of a kind have to be. -/
def ZoneKind.Admits : ZoneKind → Dict Json → Prop
  | simple, body => body.get? "dhcp" = none ∨ HoldsOneOf body "dhcp" ["dnsmasq"]
  | vlan, body => HoldsText body "bridge"
  | vxlan, body =>
    HoldsText body "peers" ∧
      (body.get? "vxlan-port" = none ∨ HoldsWithin body "vxlan-port" 1 65535)
  | qinq, body =>
    HoldsText body "bridge" ∧ HoldsWithin body "tag" 1 4094 ∧
      HoldsOneOf body "vlan-protocol" ["802.1q", "802.1ad"]
  | evpn, body =>
    HoldsText body "controller" ∧ HoldsWithin body "vrf-vxlan" 1 16777215 ∧
      (body.get? "mac" = none ∨ ∃ s, body.get? "mac" = some (.text s) ∧ MacAddress s)
  | faucet, _ => False

/-- What any body that writes a zone has to be. -/
structure Zone.Fits (z : Zone) (k : ZoneKind) (body : Dict Json) : Prop where
  flat : ∀ name v, body.get? name = some v → (∃ s, v = .text s) ∨ ∃ i, v = .int i
  zone : body.get? "zone" = some (.text z.name)
  name : 3 ≤ z.name.length
  known : ∀ name ∈ body.names, name ∈ ["zone", "type", "delete"] ∨
    name ∈ (Attribute.common ++ k.attributes).map Attribute.wireName
  ipam : HoldsText body "ipam"
  mtu : body.get? "mtu" = none ∨ ∃ i, body.get? "mtu" = some (.int i) ∧ 68 ≤ i
  own : k.Admits body

/-- A body that creates a zone names its kind and clears nothing. -/
def Creating (k : ZoneKind) (body : Dict Json) : Prop :=
  body.get? "type" = some (.text k.name) ∧ body.get? "delete" = none

/-- A body that updates a zone leaves its kind alone and clears only what it does not set. -/
def Updating (body : Dict Json) : Prop :=
  body.get? "type" = none ∧
    ∀ v, body.get? "delete" = some v → ∃ names, v = .text names ∧
      ∀ name ∈ Text.splitString ',' names, name ≠ "zone" ∧ name ≠ "type" ∧ name ∉ body.names

/-- A request that writes a zone, and how its body has to be. -/
inductive Zone.Writes (z : Zone) (k : ZoneKind) : Request → Prop where
  | create {body : Dict Json} (fits : z.Fits k body) (creating : Creating k body) :
    z.Writes k (.post zonesRoot (.ofDict body))
  | update {body : Dict Json} (fits : z.Fits k body) (updating : Updating body) :
    z.Writes k (.put (zonePath z.name) (.ofDict body))

/-! ## Valid settings -/

section

variable {body : Dict Json} {name setting : String}

theorem holdsText_of_require {v : Option String} (held : body.get? name = v.map .text)
    (valid : require setting v = []) : HoldsText body name := by
  obtain ⟨s, rfl⟩ := require_eq_nil_iff.1 valid
  exact ⟨s, held⟩

theorem holdsOneOf_of_valid {v : Option String} {allowed : List String}
    (held : body.get? name = v.map .text) (valid : oneOf setting allowed v = []) :
    body.get? name = none ∨ HoldsOneOf body name allowed := by
  cases v with
  | none => exact .inl held
  | some s => exact .inr ⟨s, oneOf_eq_nil_iff.1 valid s rfl, held⟩

theorem holdsWithin_of_valid {v : Option Int32} {low high : Int32}
    (held : body.get? name = v.map (ValueKind.integer.encode ·))
    (valid : withinRange setting low high v = []) :
    body.get? name = none ∨ HoldsWithin body name low.toInt high.toInt := by
  cases v with
  | none => exact .inl held
  | some n => exact .inr ⟨n.toInt, held, withinRange_eq_nil_iff.1 valid n rfl⟩

theorem holdsWithin_of_required {v : Option Int32} {low high : Int32} {other : String}
    (held : body.get? name = v.map (ValueKind.integer.encode ·))
    (required : require other v = []) (valid : withinRange setting low high v = []) :
    HoldsWithin body name low.toInt high.toInt := by
  refine (holdsWithin_of_valid held valid).resolve_left fun absent => ?_
  obtain ⟨n, rfl⟩ := require_eq_nil_iff.1 required
  rw [held] at absent
  cases absent

end

/-- A list that is there and has elements has a text. -/
theorem exists_join {values : Option (List String)} (ne : values ≠ some [])
    (present : ∃ vs, values = some vs) : ∃ text, CommaList.join values = some text := by
  obtain ⟨vs, rfl⟩ := present
  cases vs with
  | nil => exact absurd rfl ne
  | cons v vs => exact ⟨_, rfl⟩

/-- A block without violations gives what its kind has to have. -/
theorem Block.admits_of_valid {b : Block} (valid : b.withDefaults.violations = [])
    {body : Dict Json} (held : ∀ a ∈ b.kind.attributes,
      body.get? a.wireName = (b.withDefaults.value a).map a.kind.encode) :
    b.kind.Admits body := by
  cases b with
  | simple b =>
    change ∀ a ∈ ZoneKind.simple.attributes, _ at held
    exact holdsOneOf_of_valid (held .dhcp (by decide)) valid
  | vlan b =>
    change ∀ a ∈ ZoneKind.vlan.attributes, _ at held
    exact holdsText_of_require (held .bridge (by decide)) valid
  | vxlan b =>
    change ∀ a ∈ ZoneKind.vxlan.attributes, _ at held
    obtain ⟨required, port⟩ := List.append_eq_nil_iff.1 valid
    obtain ⟨text, peers⟩ :=
      exists_join (dropEmptyList_ne_nil b.peers) (require_eq_nil_iff.1 required)
    refine ⟨⟨text, (held .peers (by decide)).trans ?_⟩,
      holdsWithin_of_valid (held .vxlanPort (by decide)) port⟩
    exact congrArg (Option.map Json.text) peers
  | qinq b =>
    change ∀ a ∈ ZoneKind.qinq.attributes, _ at held
    simp only [withDefaults, violations, List.append_eq_nil_iff] at valid
    obtain ⟨⟨⟨bridge, required⟩, tag⟩, protocol⟩ := valid
    -- the default of the protocol makes it present
    have present : body.get? "vlan-protocol" ≠ none := by
      intro absent
      cases (held .vlanProtocol (by decide)).symm.trans absent
    exact ⟨holdsText_of_require (held .bridge (by decide)) bridge,
      holdsWithin_of_required (held .tag (by decide)) required tag,
      (holdsOneOf_of_valid (held .vlanProtocol (by decide)) protocol).resolve_left present⟩
  | evpn b =>
    change ∀ a ∈ ZoneKind.evpn.attributes, _ at held
    simp only [withDefaults, violations, List.append_eq_nil_iff] at valid
    obtain ⟨⟨⟨controller, required⟩, vrfVxlan⟩, mac⟩ := valid
    refine ⟨holdsText_of_require (held .controller (by decide)) controller,
      holdsWithin_of_required (held .vrfVxlan (by decide)) required vrfVxlan, ?_⟩
    have heldMac : body.get? "mac" = b.mac.map .text := held .mac (by decide)
    cases h : b.mac with
    | none => exact .inl (by rw [heldMac, h]; rfl)
    | some address =>
      have isMac : isMac address = true := by simpa [h] using mac
      exact .inr ⟨address, by rw [heldMac, h]; rfl, pairs_of_isMac isMac⟩

/-! ## Bodies -/

theorem ValueKind.flat_encode (k : ValueKind) (v : k.Value) :
    (∃ s, k.encode v = .text s) ∨ ∃ i, k.encode v = .int i := by
  cases k with
  | text => exact .inl ⟨v, rfl⟩
  | flag => exact .inr ⟨_, rfl⟩
  | integer => exact .inr ⟨_, rfl⟩

/-- A record is encoded as an object of texts and integers. -/
theorem Record.flat_fields {r : Record} {name : String} {v : Json}
    (h : r.fields.get? name = some v) : (∃ s, v = .text s) ∨ ∃ i, v = .int i := by
  by_cases zone : name = "zone"
  · rw [zone, get?_fields_zone] at h
    exact .inl ⟨_, (Option.some.inj h).symm⟩
  by_cases type : name = "type"
  · rw [type, get?_fields_type, Option.map_eq_some_iff] at h
    obtain ⟨kind, _, rfl⟩ := h
    exact .inl ⟨kind, rfl⟩
  by_cases known : ∃ a : Attribute, a.wireName = name
  · obtain ⟨a, rfl⟩ := known
    rw [get?_fields_wireName, Option.map_eq_some_iff] at h
    obtain ⟨x, _, rfl⟩ := h
    exact a.kind.flat_encode x
  · rw [r.get?_fields_of_ne zone type fun a h => known ⟨a, h⟩] at h
    cases h

/-- A body holds the fields of a record, and besides them at most a text for the kind and one for
the names to clear. -/
structure Record.HeldBy (r : Record) (body : Dict Json) : Prop where
  fields : ∀ name, name ≠ "type" → name ≠ "delete" → body.get? name = r.fields.get? name
  texts : ∀ name v, name = "type" ∨ name = "delete" → body.get? name = some v → ∃ s, v = .text s

theorem ZoneKind.not_mem_common {k : ZoneKind} {a : Attribute} (own : a ∈ k.attributes) :
    a ∉ Attribute.common := by
  have all : ∀ a ∈ k.attributes, a ∉ Attribute.common := by cases k <;> decide
  exact all a own

namespace Record.HeldBy

variable {r : Record} {body : Dict Json} (heldBy : r.HeldBy body)
include heldBy

theorem zone : body.get? "zone" = some (.text r.zone) :=
  (heldBy.fields "zone" (by decide) (by decide)).trans r.get?_fields_zone

theorem value (a : Attribute) : body.get? a.wireName = (r.value a).map a.kind.encode :=
  (heldBy.fields _ a.wireName_ne_type a.wireName_ne_delete).trans (r.get?_fields_wireName a)

theorem flat {name : String} {v : Json} (held : body.get? name = some v) :
    (∃ s, v = .text s) ∨ ∃ i, v = .int i := by
  by_cases special : name = "type" ∨ name = "delete"
  · exact .inl (heldBy.texts name v special held)
  · obtain ⟨type, delete⟩ := not_or.1 special
    exact flat_fields ((heldBy.fields name type delete).symm.trans held)

end Record.HeldBy

namespace Zone

variable {z : Zone} {k : ZoneKind} {body : Dict Json}

/-- A body that holds the record of a zone has only fields that zones of its kind manage. -/
theorem known_of_heldBy (heldBy : z.toRecord.HeldBy body) (kind : z.kind = some k) {name : String}
    (held : name ∈ body.names) :
    name ∈ ["zone", "type", "delete"] ∨
      name ∈ (Attribute.common ++ k.attributes).map Attribute.wireName := by
  by_cases special : name = "type" ∨ name = "delete"
  · exact .inl (List.mem_cons_of_mem _ (by simpa using special))
  · obtain ⟨type, delete⟩ := not_or.1 special
    rw [Dict.mem_names_iff, heldBy.fields name type delete] at held
    have known : name ∈ z.managedNames := Decidable.byContradiction fun unmanaged =>
      held (get?_fields_toRecord_eq_none unmanaged type)
    rw [managedNames, managed_of_kind kind] at known
    exact (List.mem_cons.1 known).imp (fun zone => List.mem_cons.2 (.inl zone)) id

/-- A body that holds the record of an accepted zone is as the schema says. -/
theorem Accepted.fits (accepted : z.Accepted) (kind : z.kind = some k)
    (heldBy : z.withDefaults.toRecord.HeldBy body) : z.Fits k body := by
  obtain ⟨long, mtu, _, defaulted, valid⟩ :=
    violations_eq_nil_iff.1 (hasError_validate_eq_false_iff.1 accepted.valid)
  obtain ⟨b, hb, rfl⟩ := Option.map_eq_some_iff.1 defaulted
  obtain rfl : b.kind = k := by
    rw [Zone.kind, hb] at kind
    exact Option.some.inj kind
  have own : b.kind.Admits body := Block.admits_of_valid valid fun a own => by
    have value : z.withDefaults.value a = b.withDefaults.value a := by
      rw [value_of_not_common (ZoneKind.not_mem_common own), defaulted, Option.bind_some]
    rw [heldBy.value, ← value]
    rfl
  have heldMtu : body.get? "mtu" = z.mtu.map fun n => .int n.toInt := heldBy.value .mtu
  refine ⟨fun _ _ => heldBy.flat, heldBy.zone, long,
    fun _ => known_of_heldBy heldBy (kind_withDefaults.trans kind), ⟨_, heldBy.value .ipam⟩, ?_,
    own⟩
  cases h : z.mtu with
  | none => exact .inl (by rw [heldMtu, h]; rfl)
  | some n => exact .inr ⟨n.toInt, by rw [heldMtu, h]; rfl, mtu n h⟩

theorem creating (kind : z.kind = some k) : Creating k z.toRecord.fields := by
  refine ⟨?_, z.toRecord.get?_fields_delete⟩
  rw [Record.get?_fields_type, kind_toRecord kind, Option.map_some]

/-- What an update clears is managed, and the update does not set it. -/
theorem updating (z : Zone) : Updating z.toUpdate.fields := by
  refine ⟨get?_fields_toUpdate (by decide), fun v held => ?_⟩
  rw [UpdateRequest.get?_fields_delete, Option.map_eq_some_iff] at held
  obtain ⟨names, hnames, rfl⟩ := held
  have pieces : Text.splitString ',' names = z.toUpdate.deletedFields := by
    rw [UpdateRequest.deletedFields, hnames]
  refine ⟨names, rfl, fun name h => ?_⟩
  rw [pieces, deletedFields_toUpdate, List.mem_filter, decide_eq_true_iff] at h
  obtain ⟨managed, unset⟩ := h
  obtain ⟨type, delete⟩ := ne_of_mem_managedNames (List.mem_cons_of_mem _ managed)
  refine ⟨?_, type, ?_⟩
  · rintro rfl
    obtain ⟨a, _, zone⟩ := List.mem_map.1 managed
    exact a.wireName_ne_zone zone
  · rw [Dict.mem_names_iff] at unset ⊢
    rwa [get?_fields_toUpdate delete, if_neg type]

theorem Accepted.exists_kind (accepted : z.Accepted) : ∃ k, z.kind = some k := by
  obtain ⟨b, hb⟩ := accepted.exists_block
  exact ⟨b.kind, by rw [← kind_withDefaults, Zone.kind, hb, Option.map_some]⟩

theorem heldBy_fields (kind : z.kind = some k) : z.toRecord.HeldBy z.toRecord.fields := by
  refine ⟨fun _ _ _ => rfl, ?_⟩
  rintro name v (rfl | rfl) held
  · rw [(creating kind).1] at held
    exact ⟨k.name, (Option.some.inj held).symm⟩
  · rw [(creating kind).2] at held
    cases held

theorem heldBy_toUpdate (z : Zone) : z.toRecord.HeldBy z.toUpdate.fields := by
  refine ⟨fun name type delete => ?_, ?_⟩
  · rw [get?_fields_toUpdate delete, if_neg type]
  · rintro name v (rfl | rfl) held
    · rw [z.updating.1] at held
      cases held
    · obtain ⟨names, text, _⟩ := z.updating.2 v held
      exact ⟨names, text⟩

/-- What is asked on behalf of a zone and writes something writes the zone as the schema says. -/
theorem Asks.writes {request : Request} (asks : z.Asks request)
    (write : request.method = .post ∨ request.method = .put) :
    ∃ k, z.kind = some k ∧ z.Writes k request := by
  cases asks with
  | read => rcases write with h | h <;> cases h
  | delete => rcases write with h | h <;> cases h
  | create accepted =>
    obtain ⟨k, kind⟩ := accepted.exists_kind
    have defaulted := kind_withDefaults.trans kind
    exact ⟨k, kind, .create (accepted.fits kind (heldBy_fields defaulted)) (creating defaulted)⟩
  | update accepted =>
    obtain ⟨k, kind⟩ := accepted.exists_kind
    exact ⟨k, kind, .update (accepted.fits kind (heldBy_toUpdate _)) (updating _)⟩

end Zone

/-! ## Sessions -/

namespace Session

variable {σ : Type}

/-- In every session, whoever answers and whatever plans are carried out, all that is sent to write
a zone is as the schema says. -/
theorem writes_meet_schema (t : Transport σ) (steps : List Step) (s : σ) :
    ∀ e ∈ exchanges t steps s, e.2.request.method = .post ∨ e.2.request.method = .put →
      ∃ k, e.1.operation.subject.kind = some k ∧ e.1.operation.subject.Writes k e.2.request := by
  rintro ⟨step, request, reply⟩ made write
  cases asked t steps s _ made with
  | subject asks => exact asks.writes write
  | replaced => rcases write with h | h <;> cases h

/-- A plan to update that nobody made, carried out where every call fails. -/
theorem refused_update_meets_schema :
    let z : Zone := {
      name := "zone1", block := some (.qinq { bridge := some "vmbr0", tag := some 7 }) }
    let step : Step := ⟨.apply ⟨.update, z, none, []⟩, []⟩
    let busy : Reply := .error (.status 503 "busy")
    let t : Transport Unit := ⟨fun _ s => (busy, s), fun s => (.ok false, s)⟩
    ∃ request, request.method = .put ∧ exchanges t [step] () = [(step, ⟨request, busy⟩)] ∧
      z.Writes .qinq request := by
  intro z step busy t
  have accepted : z.Accepted := ⟨by decide, by decide⟩
  have made : exchanges t [step] () =
      [(step, ⟨.put (zonePath z.name) (.ofDict z.withDefaults.toUpdate.fields), busy⟩)] := by
    have update : step.operation.perform step.diagnostics = z.update [] := rfl
    simp only [exchanges, update, Zone.update_eq_submit, Zone.submit_of_accepted _ _ accepted]
    rfl
  refine ⟨_, rfl, made, ?_⟩
  obtain ⟨k, kind, writes⟩ := writes_meet_schema t [step] () _
    (made ▸ List.mem_cons_self) (.inr rfl)
  obtain rfl : ZoneKind.qinq = k := Option.some.inj kind
  exact writes

end Session

end SdnZones
