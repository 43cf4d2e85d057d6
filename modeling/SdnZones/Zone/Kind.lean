-- SUMMARY: The kinds of zones a cluster knows, and their names.
import SdnZones.Decode.Fault

/-!
# Kinds of zones

A cluster knows six kinds of zones, each by a name in lower case. Names are compared
exactly.
-/

namespace SdnZones

/-- A kind of zone. -/
inductive ZoneKind where
  | simple
  | vlan
  | qinq
  | vxlan
  | evpn
  | faucet
deriving DecidableEq

namespace ZoneKind

/-- The kinds as the cluster lists them; messages name them in this order. -/
def all : List ZoneKind := [simple, vlan, qinq, vxlan, evpn, faucet]

/-- The name of a kind. -/
def name : ZoneKind → String
  | simple => "simple"
  | vlan => "vlan"
  | qinq => "qinq"
  | vxlan => "vxlan"
  | evpn => "evpn"
  | faucet => "faucet"

/-- The kind of a name. -/
def ofName? (s : String) : Option ZoneKind := all.find? (·.name == s)

theorem mem_all (k : ZoneKind) : k ∈ all := by cases k <;> decide

theorem ofName?_name (k : ZoneKind) : ofName? k.name = some k := by cases k <;> decide

theorem ofName?_eq_some_iff {s : String} {k : ZoneKind} : ofName? s = some k ↔ k.name = s := by
  constructor
  · intro h
    simpa using List.find?_some h
  · rintro rfl
    exact ofName?_name k

/-- Decode a name that stands as a text. -/
def decodeName (s : String) : Except DecodeFault ZoneKind :=
  match ofName? s with
  | some k => .ok k
  | none => .error (.unknownVariant s (all.map name))

/-- Decode a kind: its name, or an object whose only member has that name and no value. -/
def ofJson : Json → Except DecodeFault ZoneKind
  | .text s => decodeName s
  | .object [(s, v)] =>
    match decodeName s with
    | .error fault => .error fault
    | .ok k =>
      match v with
      | .null => .ok k
      | v => .error (.invalidType v.found "unit")
  | .object _ => .error .notOneMember
  | v => .error (.invalidType v.found "string or map")

end ZoneKind

end SdnZones
