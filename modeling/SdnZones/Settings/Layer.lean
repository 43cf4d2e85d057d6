-- SUMMARY: Layers of configured values, how they are laid over each other, and lenient reading.
import SdnZones.Number.Numeral
import SdnZones.Settings.Basic

/-!
# Layers of configured values

Settings come from several layers; a later layer wins. The name of a value may be a path
such as `a.b[0]`, which makes what stands under `a` a table or a list. Since every
setting is a scalar, it does not matter what a list or a table holds, only that it is
one. Scalars are read leniently, by what they mean rather than by how they are written.
-/

namespace SdnZones.Settings

/-- A value as it was configured. -/
inductive Configured where
  | absent
  | bool (b : Bool)
  | int (i : Int)
  | float (x : Binary64)
  | text (s : String)
  | list
  | table (isEmpty : Bool)
deriving DecidableEq

/-- The values of one layer by name. -/
abbrev Layer := Dict Configured

/-! ## Laying one over the other -/

/-- A character of a name in a path. -/
def isPathChar (c : Char) : Bool := c.isAlphanum || c == '_' || c == '-' || c == ' '

/-- Whether characters are a number of a place in a list, with spaces around it or not. -/
def isPlace (cs : List Char) : Bool :=
  let digits := ((cs.dropWhile (· == ' ')).reverse.dropWhile (· == ' ')).reverse
  match digits with
  | '-' :: rest => !rest.isEmpty && rest.all Char.isDigit
  | digits => !digits.isEmpty && digits.all Char.isDigit

/-- Whether characters are steps of a path: names after points and places in brackets. -/
def isSteps : Nat → List Char → Bool
  | _, [] => true
  | 0, _ => false
  | fuel + 1, '.' :: rest =>
    let (name, rest) := rest.span isPathChar
    !name.isEmpty && isSteps fuel rest
  | fuel + 1, '[' :: rest =>
    match Text.cut ']' rest with
    | some (place, rest) => isPlace place && isSteps fuel rest
    | none => false
  | _, _ => false

/-- The first name of a path, and what its steps make of the value under it. -/
def firstName (name : String) : String × Option Configured :=
  let (first, steps) := name.toList.span isPathChar
  if first.isEmpty || !isSteps steps.length steps then (name, none)
  else
    match steps with
    | '.' :: _ => (String.ofList first, some (.table false))
    | '[' :: _ => (String.ofList first, some .list)
    | _ => (name, none)

/-- Lay a value over what is there. An empty table changes nothing that is there. -/
def Layer.put (l : Layer) (name : String) (v : Configured) : Layer :=
  match firstName name with
  | (first, some compound) => l.insert first compound
  | (_, none) => if v = .table true && l.contains name then l else l.insert name v

/-- Lay a layer over another. -/
def Layer.over (upper lower : Layer) : Layer :=
  upper.toList.foldl (fun l e => l.put e.1 e.2) lower

/-! ## Lenient reading -/

/-- What a configured value counts as when it is not expected. -/
def Configured.found : Configured → Found
  | .absent => .null
  | .bool b => .bool b
  | .int i => .int i
  | .float x => .float x
  | .text s => .text s
  | .list => .sequence
  | .table _ => .map

/-- The truth value of a word, in any case. -/
def flagOfWord? (s : String) : Option Bool :=
  let word := String.ofList (s.toList.map Char.toLower)
  if ["true", "on", "yes"].contains word then some true
  else if ["false", "off", "no"].contains word then some false
  else none

/-- A text, or the text of a scalar. -/
def Configured.readText : Configured → Except DecodeFault String
  | .bool b => .ok (if b then "true" else "false")
  | .int i => .ok i.repr
  | .float x => .ok x.plainText
  | .text s => .ok s
  | v => .error (.invalidType v.found "a string")

/-- A truth value; numbers are true unless they are zero. -/
def Configured.readFlag : Configured → Except DecodeFault Bool
  | .bool b => .ok b
  | .int i => .ok (i != 0)
  | .float x => .ok (!x.isZero)
  | .text s =>
    match flagOfWord? s with
    | some b => .ok b
    | none =>
      if s = "1" then .ok true
      else if s = "0" then .ok false
      else .error (.invalidType (.text s) "a boolean")
  | v => .error (.invalidType v.found "a boolean")

/-- The count nearest to a number, a half away from zero, inside the bounds of counts. -/
def countOfFloat (x : Binary64) : UInt64 :=
  match x with
  | .infinite false => UInt64.ofNat (twoTo 64 - 1)
  | x =>
    match x.round? with
    | some i => UInt64.ofNat (min i.toNat (twoTo 64 - 1))
    | none => 0

/-- The count that digits with or without a plus sign stand for. -/
def countOfDigits? (s : String) : Option UInt64 :=
  let digits :=
    match s.toList with
    | '+' :: rest => rest
    | cs => cs
  (Numeral.nat? 10 digits).bind fun n => Numeral.toUInt64? n

/-- A count; a truth value counts as one or zero. -/
def Configured.readCount : Configured → Except DecodeFault UInt64
  | .bool b => .ok (if b then 1 else 0)
  | .int i =>
    match Numeral.toUInt64? i with
    | some n => .ok n
    | none => .error (.invalidType (.int i) "an unsigned 64 bit or less integer")
  | .float x => .ok (countOfFloat x)
  | .text s =>
    match flagOfWord? s with
    | some b => .ok (if b then 1 else 0)
    | none =>
      match countOfDigits? s with
      | some n => .ok n
      | none => .error (.invalidType (.text s) "an integer")
  | v => .error (.invalidType v.found "an integer")

/-- Configured values are read by what they mean. -/
def leniently : Readers Configured where
  isAbsent v := v = .absent
  text := Configured.readText
  flag := Configured.readFlag
  count := Configured.readCount

/-- The settings of a layer. -/
def ofLayer (l : Layer) : Except DecodeFault Settings :=
  (layout leniently).ofMembers none {} l.toList

end SdnZones.Settings
