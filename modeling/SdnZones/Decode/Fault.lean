-- SUMMARY: What can be wrong with a value that is decoded, and the message for it.
import SdnZones.Json.Value
import SdnZones.Text.Quoted
import SdnZones.Text.Split

/-!
# Decoding faults

A decoder that meets something else than it expects says what it found, what it
expected, and which rule was broken. `DecodeFault.message` is the only place where
these causes become text.
-/

namespace SdnZones

/-- What stood in place of an expected value. -/
inductive Found where
  | null
  | bool (b : Bool)
  | int (i : Int)
  | float (x : Binary64)
  | text (s : String)
  | sequence
  | map
deriving DecidableEq

/-- A found value, as a message shows it. -/
def Found.message : Found → String
  | .null => "null"
  | .bool b => if b then "boolean `true`" else "boolean `false`"
  | .int i => s!"integer `{i.repr}`"
  | .float x => s!"floating point `{x.text}`"
  | .text s => s!"string {Text.quoted s}"
  | .sequence => "sequence"
  | .map => "map"

/-- What a JSON value counts as when it is not expected. -/
def Json.found : Json → Found
  | .null => .null
  | .bool b => .bool b
  | .int i => .int i
  | .float x => .float x
  | .text s => .text s
  | .array _ => .sequence
  | .object _ => .map

/-- Why a text could not be read as a value at all. -/
inductive ReadFault where
  /-- It breaks the rules of its format. -/
  | malformed
  /-- It ends too early. -/
  | truncated
deriving DecidableEq

/-- Why a value could not be decoded. -/
inductive DecodeFault where
  | invalidType (found : Found) (expected : String)
  | invalidValue (found : Found) (expected : String)
  | invalidLength (length : Nat) (expected : String)
  | missingField (name : String)
  | unknownField (name : String) (known : List String)
  | duplicateField (name : String)
  | unknownVariant (name : String) (known : List String)
  /-- A value that is no single-member object in place of a variant. -/
  | notOneMember
  /-- The text that holds the value cannot be read. -/
  | unreadable (fault : ReadFault)
deriving DecidableEq

/-- The names that would have been accepted. -/
def DecodeFault.choices (names : List String) : String :=
  match names.map fun n => s!"`{n}`" with
  | [] => "nothing"
  | [a] => a
  | [a, b] => s!"{a} or {b}"
  | all => "one of " ++ Text.joinWith ", " all

/-- The message for a fault; what is unreadable has the name of its class. -/
def DecodeFault.message : DecodeFault → String
  | .invalidType found expected => s!"invalid type: {found.message}, expected {expected}"
  | .invalidValue found expected => s!"invalid value: {found.message}, expected {expected}"
  | .invalidLength length expected => s!"invalid length {length}, expected {expected}"
  | .missingField name => s!"missing field `{name}`"
  | .unknownField name known => s!"unknown field `{name}`, expected {choices known}"
  | .duplicateField name => s!"duplicate field `{name}`"
  | .unknownVariant name known => s!"unknown variant `{name}`, expected {choices known}"
  | .notOneMember => "invalid value: map, expected map with a single key"
  | .unreadable .malformed => "malformed"
  | .unreadable .truncated => "truncated"

end SdnZones
