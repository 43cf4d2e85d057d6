-- SUMMARY: Bodies of requests as forms.
import SdnZones.Json.Value
import SdnZones.Text.Percent
import SdnZones.Text.Split

/-!
# Forms

The members of an object are sent as a form, ascending by name. Only scalars other than
null can be fields of a form.
-/

namespace SdnZones.Form

/-- A character that stands for itself in a form. -/
def isKept (c : Char) : Bool := c.isAlphanum || c == '*' || c == '-' || c == '.' || c == '_'

/-- A character of a form: a space is a plus sign, all else that is not kept is escaped. -/
def encodeChar (c : Char) : List Char :=
  if isKept c then [c]
  else if c = ' ' then ['+']
  else (String.utf8EncodeChar c).flatMap Percent.escape

/-- A name or a value in a form. -/
def encodePart (s : String) : List Char := s.toList.flatMap encodeChar

/-- The text of a field. -/
def fieldText? : Json → Option String
  | .text s => some s
  | .bool b => some (if b then "true" else "false")
  | .int i => some i.repr
  | .float x => some x.text
  | _ => none

/-- The fields of a form. -/
def encode? : List (String × Json) → Option (List (List Char))
  | [] => some []
  | (name, v) :: rest =>
    match fieldText? v, encode? rest with
    | some s, some fields => some ((encodePart name ++ '=' :: encodePart s) :: fields)
    | _, _ => none

/-- The form of the members of an object. -/
def ofMembers? (members : List (String × Json)) : Option String :=
  (encode? members).map fun fields => String.ofList (Text.join '&' fields)

end SdnZones.Form
