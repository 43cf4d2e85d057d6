-- SUMMARY: Values of any data format as a decoder meets them, and the readers of their scalars.
import SdnZones.Decode.Layout
import SdnZones.Text.Numeral

/-!
# Data

A datum is a value of a text format before anybody has asked what it should be. A text
that cannot be read to its end still gives a datum: the fault stands at the place where
reading stopped, so that a decoder which visits values in the order of the text reports
whichever fault comes first, its own or the text's.
-/

namespace SdnZones

/-- What a tag says of a scalar without quotes. -/
inductive PlainTag where
  /-- There is no tag. -/
  | none
  /-- The value is absent. -/
  | null
  | other
deriving DecidableEq

/-- A value of a data format. -/
inductive Datum where
  | null
  | bool (b : Bool)
  | int (i : Int)
  | float (x : Binary64)
  | text (s : String)
  /-- A scalar written without quotes, whose type depends on what is expected of it. -/
  | plain (s : String) (tag : PlainTag)
  /-- Items, and how their text breaks off after them. -/
  | list (items : List Datum) (ending : Option ReadFault)
  /-- Members in the order of the text, and how their text breaks off after them. -/
  | fields (members : List (String × Datum)) (ending : Option ReadFault)
  /-- No value: the text cannot be read here. -/
  | broken (fault : ReadFault)

/-- What differs between formats in how they present structures. -/
structure Conventions where
  /-- A list of its fields may stand for a structure. -/
  listsAsStructures : Bool
  excess : Excess

namespace Conventions

/-- A JSON value that was read before. -/
def jsonValue : Conventions := ⟨true, .counted⟩

/-- JSON that is decoded while it is read. -/
def jsonText : Conventions := ⟨true, .malformed⟩

/-- TOML values. -/
def toml : Conventions := ⟨true, .ignored⟩

/-- YAML nodes. -/
def yaml : Conventions := ⟨false, .ignored⟩

end Conventions

/-! ## Plain scalars -/

namespace Plain

/-- The words for an absent value. -/
def isNull (s : String) : Bool := ["null", "Null", "NULL", "~"].contains s

/-- The words for a truth value. -/
def bool? (s : String) : Option Bool :=
  if ["true", "True", "TRUE"].contains s then some true
  else if ["false", "False", "FALSE"].contains s then some false
  else none

/-- Two or more digits that start with zero, after at most one sign. -/
def isPaddedNumber (s : String) : Bool :=
  let digits :=
    match s.toList with
    | '-' :: rest => rest
    | '+' :: rest => rest
    | cs => cs
  match digits with
  | '0' :: c :: rest => (c :: rest).all Char.isDigit
  | _ => false

/-- Digits of a base with at most a minus sign that `negative` puts before them. -/
def based? (base : Nat) (negative : Bool) (cs : List Char) : Option Int :=
  (Numeral.nat? base cs).map fun n => if negative then -Int.ofNat n else Int.ofNat n

/-- An integer in base ten, or in base sixteen, eight or two after `0x`, `0o` or `0b`. -/
def int? (s : String) : Option Int :=
  let (negative, cs) :=
    match s.toList with
    | '-' :: rest => (true, rest)
    | '+' :: rest => (false, rest)
    | cs => (false, cs)
  let other :=
    match cs with
    | '0' :: 'x' :: rest => based? 16 negative rest
    | '0' :: 'o' :: rest => based? 8 negative rest
    | '0' :: 'b' :: rest => based? 2 negative rest
    | _ => none
  match other with
  | some i => some i
  | none => if isPaddedNumber s then none else based? 10 negative cs

end Plain

/-! ## Scalar readers -/

namespace Datum

/-- The fault of a datum that is not what was expected. -/
def unexpected (expected : String) : Datum → DecodeFault
  | .null => .invalidType .null expected
  | .bool b => .invalidType (.bool b) expected
  | .int i => .invalidType (.int i) expected
  | .float x => .invalidType (.float x) expected
  | .text s => .invalidType (.text s) expected
  | .plain s _ => .invalidType (.text s) expected
  | .list _ _ => .invalidType .sequence expected
  | .fields _ _ => .invalidType .map expected
  | .broken fault => .unreadable fault

/-- Whether a datum stands for an absent value. A scalar with the tag of absent values has to be
one of the words for them. -/
def isAbsent : Datum → Except DecodeFault Bool
  | .null => .ok true
  | .plain s .none => .ok (s.isEmpty || Plain.isNull s)
  | .plain s .null => if Plain.isNull s then .ok true else .error (.invalidValue (.text s) "null")
  | _ => .ok false

/-- A text. -/
def readText : Datum → Except DecodeFault String
  | .text s => .ok s
  | .plain s _ => .ok s
  | d => .error (d.unexpected "a string")

/-- A 32-bit integer. -/
def readInt32 : Datum → Except DecodeFault Int32
  | .int i =>
    match Numeral.toInt32? i with
    | some n => .ok n
    | none => .error (.invalidValue (.int i) "i32")
  | .plain s _ =>
    match Plain.int? s with
    | some i =>
      match Numeral.toInt32? i with
      | some n => .ok n
      | none => .error (.invalidValue (.int i) "i32")
    | none => .error (.invalidType (.text s) "i32")
  | d => .error (d.unexpected "i32")

/-- A truth value. -/
def readBool : Datum → Except DecodeFault Bool
  | .bool b => .ok b
  | .plain s tag =>
    match Plain.bool? s with
    | some b => .ok b
    | none => .error ((Datum.plain s tag).unexpected "a boolean")
  | d => .error (d.unexpected "a boolean")

/-- The texts of a list, up to the first fault. -/
def readTexts : Datum → Except DecodeFault (List String)
  | .list items ending =>
    match items.mapM readText with
    | .error fault => .error fault
    | .ok texts =>
      match ending with
      | some fault => .error (.unreadable fault)
      | none => .ok texts
  | .plain s tag =>
    if s.isEmpty then .ok [] else .error ((Datum.plain s tag).unexpected "a sequence")
  | d => .error (d.unexpected "a sequence")

/-- A value that may be absent. -/
def readOptional {α : Type} (read : Datum → Except DecodeFault α) (d : Datum) :
    Except DecodeFault (Option α) :=
  match d.isAbsent with
  | .error fault => .error fault
  | .ok true => .ok none
  | .ok false => (read d).map some

/-- A structure, under the conventions of a format. -/
def readStructure {σ : Type} (conventions : Conventions) (l : Layout Datum σ) (start : σ) :
    Datum → Except DecodeFault σ
  | .fields members ending => l.ofMembers ending start members
  | .list items ending =>
    if conventions.listsAsStructures then l.ofItems conventions.excess ending start items
    else .error (.invalidType .sequence l.title)
  | .plain s tag =>
    if s.isEmpty then l.ofMembers none start []
    else .error ((Datum.plain s tag).unexpected l.title)
  | d => .error (d.unexpected l.title)

/-! ## JSON values -/

mutual

/-- A JSON value as a datum. -/
def ofJson : Json → Datum
  | .null => .null
  | .bool b => .bool b
  | .int i => .int i
  | .float x => .float x
  | .text s => .text s
  | .array items => .list (ofItems items) none
  | .object members => .fields (ofMembers members) none

/-- JSON items as data. -/
def ofItems : List Json → List Datum
  | [] => []
  | v :: rest => ofJson v :: ofItems rest

/-- JSON members as data. -/
def ofMembers : List (String × Json) → List (String × Datum)
  | [] => []
  | (k, v) :: rest => (k, ofJson v) :: ofMembers rest

end

mutual

/-- A datum as a JSON value; the first fault of its text instead if there is one. -/
def toJson : Datum → Except ReadFault Json
  | .null => .ok .null
  | .bool b => .ok (.bool b)
  | .int i => .ok (.int i)
  | .float x => .ok (.float x)
  | .text s => .ok (.text s)
  | .plain s _ => .ok (.text s)
  | .list items ending =>
    match toItems items, ending with
    | .error fault, _ => .error fault
    | .ok _, some fault => .error fault
    | .ok values, none => .ok (.array values)
  | .fields members ending =>
    match toMembers members, ending with
    | .error fault, _ => .error fault
    | .ok _, some fault => .error fault
    | .ok values, none => .ok (.object (Json.sortMembers values))
  | .broken fault => .error fault

/-- Data as JSON items. -/
def toItems : List Datum → Except ReadFault (List Json)
  | [] => .ok []
  | d :: rest =>
    match toJson d with
    | .error fault => .error fault
    | .ok v =>
      match toItems rest with
      | .error fault => .error fault
      | .ok values => .ok (v :: values)

/-- Data as JSON members. -/
def toMembers : List (String × Datum) → Except ReadFault (List (String × Json))
  | [] => .ok []
  | (k, d) :: rest =>
    match toJson d with
    | .error fault => .error fault
    | .ok v =>
      match toMembers rest with
      | .error fault => .error fault
      | .ok values => .ok ((k, v) :: values)

end

end Datum

end SdnZones
