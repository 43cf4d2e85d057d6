-- SUMMARY: The settings of documents: their kinds, how they are coded, and the tables of them.
import Mathlib.Data.Set.List
import SdnZones.Proofs.Decode.Codec
import SdnZones.Proofs.Zone.Record
import SdnZones.Zone.Document

/-!
# Settings of documents

A setting is a text, an integer, a list of texts or a flag. Each of these kinds has a codec that
admits exactly the JSON values declared for it (`SettingKind.codec`), and the tables say which
settings stand where.
-/

namespace SdnZones

/-! ## Kinds of settings -/

/-- What the values of a setting are. -/
inductive SettingKind where
  | text
  | integer
  | texts
  | flag
deriving DecidableEq

namespace SettingKind

/-- The values of a kind. -/
abbrev Value : SettingKind → Type
  | text => String
  | integer => Int32
  | texts => List String
  | flag => Bool

/-- Whether a JSON value is one of those declared for a kind. -/
def admits : SettingKind → Json → Bool
  | text, .text _ => true
  | integer, .int i => -2147483648 ≤ i && i ≤ 2147483647
  | texts, .array items => items.all fun v => v.text?.isSome
  | flag, .bool _ => true
  | _, _ => false

/-- The reader of a kind. -/
def read : (k : SettingKind) → Datum → Except DecodeFault k.Value
  | text => Datum.readText
  | integer => Datum.readInt32
  | texts => Datum.readTexts
  | flag => Datum.readBool

/-- A value of a kind as it is written. -/
def encode : (k : SettingKind) → k.Value → Json
  | text => .text
  | integer => Document.int32ToJson
  | texts => Document.textsToJson
  | flag => .bool

theorem encode_ne_object (k : SettingKind) (x : k.Value) (members : List (String × Json)) :
    k.encode x ≠ .object members := by
  cases k <;> exact Json.noConfusion

theorem encode_ne_null (k : SettingKind) (x : k.Value) : k.encode x ≠ .null := by
  cases k <;> exact Json.noConfusion

theorem mapM_readText_eq_ok_iff {items : List Json} {values : List String} :
    (Datum.ofItems items).mapM Datum.readText = .ok values ↔ items = values.map .text := by
  induction items generalizing values with
  | nil =>
    cases values <;> simp [Datum.ofItems, pure, Except.pure]
  | cons v items ih =>
    have head : ∀ s, Datum.readText (.ofJson v) = .ok s ↔ v = .text s := by
      intro s
      cases v <;> simp [Datum.ofJson, Datum.readText]
    rw [Datum.ofItems, List.mapM_cons]
    constructor
    · intro h
      cases first : Datum.readText (.ofJson v) with
      | error fault => rw [first] at h; cases h
      | ok s =>
        cases rest : (Datum.ofItems items).mapM Datum.readText with
        | error fault => rw [first, rest] at h; cases h
        | ok others =>
          rw [first, rest] at h
          cases h
          rw [(head s).1 first, ih.1 rest, List.map_cons]
    · intro h
      cases values with
      | nil => cases h
      | cons s values =>
        obtain ⟨first, rest⟩ := List.cons.inj h
        rw [(head s).2 first, ih.2 rest]
        rfl

theorem read_eq_ok_iff {k : SettingKind} {v : Json} {x : k.Value} :
    k.read (.ofJson v) = .ok x ↔ v = k.encode x := by
  cases k with
  | text => cases v <;> simp [read, encode, Datum.ofJson, Datum.readText]
  | integer =>
    cases v with
    | int i =>
      simp only [read, encode, Datum.ofJson, Datum.readInt32, Document.int32ToJson, Json.int.injEq]
      rw [← Numeral.toInt32?_eq_some_iff]
      cases Numeral.toInt32? i <;> simp
    | _ => simp [read, encode, Datum.ofJson, Datum.readInt32, Document.int32ToJson]
  | texts =>
    cases v with
    | array items =>
      simp only [read, encode, Datum.ofJson, Datum.readTexts, Document.textsToJson,
        Json.array.injEq]
      rw [← mapM_readText_eq_ok_iff]
      cases (Datum.ofItems items).mapM Datum.readText <;> simp
    | _ => simp [read, encode, Datum.ofJson, Datum.readTexts, Document.textsToJson]
  | flag => cases v <;> simp [read, encode, Datum.ofJson, Datum.readBool]

/-- The declared values are the ones that are written. -/
theorem admits_iff {k : SettingKind} {v : Json} : k.admits v ↔ ∃ x, v = k.encode x := by
  cases k with
  | text => cases v <;> simp [admits, encode]
  | flag => cases v <;> simp [admits, encode]
  | integer =>
    cases v with
    | int i =>
      simp only [admits, encode, Document.int32ToJson, Json.int.injEq,
        ← Numeral.toInt32?_eq_some_iff, ← Option.isSome_iff_exists]
      rw [Numeral.toInt32?, Numeral.fitsInt32]
      split <;> simp_all
    | _ => simp [admits, encode, Document.int32ToJson]
  | texts =>
    cases v with
    | array items =>
      have text : ∀ v : Json, v.text?.isSome ↔ v ∈ Set.range Json.text := by
        intro v
        cases v <;> simp [Json.text?]
      have range : (∀ v ∈ items, v ∈ Set.range Json.text) ↔
          items ∈ Set.range (List.map Json.text) := by
        rw [Set.range_list_map]
        rfl
      simp only [admits, encode, Document.textsToJson, Json.array.injEq, List.all_eq_true, text]
      exact range.trans (exists_congr fun _ => eq_comm)
    | _ => simp [admits, encode, Document.textsToJson]

/-- The codec of a kind. -/
def codec (k : SettingKind) : Codec k.Value where
  read := k.read
  encode := k.encode
  Presented := fun _ => True
  Admits := fun v => k.admits v
  encode_ne_null := k.encode_ne_null
  read_encode := fun _ => read_eq_ok_iff.2 rfl
  read_sorted_encode := fun x => read_eq_ok_iff.2 (Json.sorted_of_ne_object (k.encode_ne_object x))
  exists_read := fun _ admitted =>
    have ⟨x, hx⟩ := admits_iff.1 admitted
    ⟨x, read_eq_ok_iff.2 hx⟩
  read_eq_ok_iff := fun {v x} _ => by
    rw [read_eq_ok_iff, Json.sorted_of_ne_object (k.encode_ne_object x), eq_comm (a := k.encode x),
      Json.sorted_withoutNulls_eq_iff (k.encode_ne_object x), admits_iff]
    exact ⟨fun h => ⟨⟨x, h⟩, h⟩, And.right⟩

end SettingKind

/-! ## Settings of structures -/

/-- A setting of a structure. -/
structure Setting (σ : Type) where
  name : String
  kind : SettingKind
  get : σ → Option kind.Value
  set : Option kind.Value → σ → σ

namespace Setting

variable {σ : Type}

/-- The name and kind of a setting. -/
def entry (s : Setting σ) : String × SettingKind := (s.name, s.kind)

/-- A setting as a field. -/
def field (s : Setting σ) : Field σ := s.kind.codec.optional s.name s.get s.set

/-- The member as which a setting is written. -/
def member (s : Setting σ) (t : σ) : List (String × Json) :=
  Document.member s.name s.kind.encode (s.get t)

/-- Settings that are independent of each other and make up the whole structure. -/
abbrev Lawful (settings : List (Setting σ)) : Prop :=
  Slots.Lawful ((settings.map field).map Field.toSlot)

end Setting

/-! ## Tables of settings -/

/-- The settings of documents outside of blocks. -/
def Document.settings : List (String × SettingKind) := [
  ("mtu", .integer), ("nodes", .texts), ("ipam", .text), ("dns", .text), ("reversedns", .text),
  ("dnszone", .text)]

/-- The settings of the block for a kind of zone. -/
def ZoneKind.settings : ZoneKind → List (String × SettingKind)
  | simple => [("dhcp", .text)]
  | vlan => [("bridge", .text)]
  | vxlan => [("peers", .texts), ("port", .integer)]
  | qinq => [("bridge", .text), ("tag", .integer), ("vlan_protocol", .text)]
  | evpn => [
    ("controller", .text), ("vrf_vxlan", .integer), ("mac", .text), ("exitnodes", .texts),
    ("exitnodes_primary", .text), ("exitnodes_local_routing", .flag),
    ("advertise_subnets", .flag), ("disable_arp_nd_suppression", .flag), ("rt_import", .text)]
  | faucet => []

end SdnZones
