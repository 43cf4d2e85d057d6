-- SUMMARY: Decoding a structure from its members or from a list of its fields.
import SdnZones.Decode.Fault

/-!
# Layouts of structures

A layout names the fields of a structure in their order and says how each is read.
A structure is decoded from named members, visited in the order in which they stand,
or from a plain list of its fields. The first fault met ends the decoding.
-/

namespace SdnZones

/-- How one field is read: what it does to the structure being filled. -/
structure FieldReader (ν σ : Type) where
  name : String
  read : ν → Except DecodeFault (σ → σ)

/-- The fields of a structure in their order. -/
structure Layout (ν σ : Type) where
  /-- What the structure is called in messages. -/
  title : String
  /-- Whether members of other names are refused. -/
  strict : Bool
  /-- Whether the first field has to be there. -/
  needsFirst : Bool
  readers : List (FieldReader ν σ)

/-- What becomes of list items beyond the last field. -/
inductive Excess where
  /-- They are counted and refused. -/
  | counted
  /-- They break the rules of the text they stand in. -/
  | malformed
  | ignored
deriving DecidableEq

namespace Layout

variable {ν σ : Type}

/-- The names of all fields. -/
def names (l : Layout ν σ) : List String := l.readers.map (·.name)

/-- The fault of a structure whose members end without a field that has to be there. -/
def missing? (l : Layout ν σ) (seen : List String) : Option DecodeFault :=
  match l.readers with
  | [] => none
  | first :: _ =>
    if l.needsFirst && !seen.contains first.name then some (.missingField first.name) else none

/-- Visit the members that are left, with the names seen so far. -/
def visit (l : Layout ν σ) (ending : Option ReadFault) (seen : List String) (s : σ) :
    List (String × ν) → Except DecodeFault σ
  | [] =>
    match ending with
    | some fault => .error (.unreadable fault)
    | none =>
      match l.missing? seen with
      | some fault => .error fault
      | none => .ok s
  | (name, value) :: rest =>
    match l.readers.find? (·.name == name) with
    | none =>
      if l.strict then .error (.unknownField name l.names)
      else l.visit ending seen s rest
    | some reader =>
      if seen.contains name then .error (.duplicateField name)
      else
        match reader.read value with
        | .error fault => .error fault
        | .ok fill => l.visit ending (name :: seen) (fill s) rest

/-- Decode from members; `ending` tells whether the text of the members breaks off after them. -/
def ofMembers (l : Layout ν σ) (ending : Option ReadFault) (start : σ)
    (members : List (String × ν)) : Except DecodeFault σ :=
  l.visit ending [] start members

/-- Fill the fields that are left from the items that are left. -/
def fill (excess : Excess) (ending : Option ReadFault) (total : Nat) (s : σ) :
    List (FieldReader ν σ) → List ν → Except DecodeFault σ
  | [], [] =>
    match ending with
    | some fault => .error (.unreadable fault)
    | none => .ok s
  | [], _ :: _ =>
    match excess with
    | .counted => .error (.invalidLength total "fewer elements in array")
    | .malformed => .error (.unreadable .malformed)
    | .ignored => .ok s
  | _ :: _, [] =>
    match ending with
    | some fault => .error (.unreadable fault)
    | none => .ok s
  | reader :: readers, item :: items =>
    match reader.read item with
    | .error fault => .error fault
    | .ok f => fill excess ending total (f s) readers items

/-- Decode from a list of the fields in their order; fields beyond its end keep their start. -/
def ofItems (l : Layout ν σ) (excess : Excess) (ending : Option ReadFault) (start : σ)
    (items : List ν) : Except DecodeFault σ :=
  if items.isEmpty && l.needsFirst && ending.isNone then
    let count := l.readers.length
    let noun := if count = 1 then "element" else "elements"
    .error (.invalidLength 0 s!"{l.title} with {count} {noun}")
  else fill excess ending items.length start l.readers items

/-- Decode from a JSON value, whose members stand in ascending order. -/
def ofJson (l : Layout Json σ) (start : σ) : Json → Except DecodeFault σ
  | .object members => l.ofMembers none start members
  | .array items => l.ofItems .counted none start items
  | v => .error (.invalidType v.found l.title)

end Layout

end SdnZones
