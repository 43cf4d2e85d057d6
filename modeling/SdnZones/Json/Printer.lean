-- SUMMARY: JSON text of a value, compact and indented.
import SdnZones.Json.Value

/-!
# JSON text

`compact` writes a value without any white space, `pretty` one item or member a line,
two spaces deeper for each level. An empty array or object is written closed up.
-/

namespace SdnZones.Json

/-- A character inside a JSON string. -/
def escapedChar (c : Char) : List Char :=
  if c = '"' then ['\\', '"']
  else if c = '\\' then ['\\', '\\']
  else if c = '\n' then ['\\', 'n']
  else if c = '\r' then ['\\', 'r']
  else if c = '\t' then ['\\', 't']
  else if c = '\x08' then ['\\', 'b']
  else if c = '\x0c' then ['\\', 'f']
  else if c.toNat < 0x20 then
    ['\\', 'u', '0', '0'] ++ [Nat.digitChar (c.toNat / 16), Nat.digitChar (c.toNat % 16)]
  else [c]

/-- A JSON string. -/
def stringText (s : String) : List Char := '"' :: s.toList.flatMap escapedChar ++ ['"']

mutual

/-- A value without white space. -/
def compactChars : Json → List Char
  | .null => "null".toList
  | .bool b => if b then "true".toList else "false".toList
  | .int i => i.repr.toList
  | .float x => x.text.toList
  | .text s => stringText s
  | .array items => '[' :: compactItems items ++ [']']
  | .object members => '\x7b' :: compactMembers members ++ ['\x7d']

/-- Items with commas between them. -/
def compactItems : List Json → List Char
  | [] => []
  | [v] => compactChars v
  | v :: w :: rest => compactChars v ++ ',' :: compactItems (w :: rest)

/-- Members with commas between them. -/
def compactMembers : List (String × Json) → List Char
  | [] => []
  | [(k, v)] => stringText k ++ ':' :: compactChars v
  | (k, v) :: m :: rest =>
    stringText k ++ ':' :: compactChars v ++ ',' :: compactMembers (m :: rest)

end

/-- A new line, indented to a depth. -/
def newLine (depth : Nat) : List Char := '\n' :: List.replicate (2 * depth) ' '

mutual

/-- A value over several lines, its first line at the place where it starts. -/
def prettyChars (depth : Nat) : Json → List Char
  | .array [] => ['[', ']']
  | .array (v :: rest) => '[' :: prettyItems (depth + 1) (v :: rest) ++ newLine depth ++ [']']
  | .object [] => ['\x7b', '\x7d']
  | .object (m :: rest) =>
    '\x7b' :: prettyMembers (depth + 1) (m :: rest) ++ newLine depth ++ ['\x7d']
  | .null => "null".toList
  | .bool b => if b then "true".toList else "false".toList
  | .int i => i.repr.toList
  | .float x => x.text.toList
  | .text s => stringText s

/-- Items, each on a line of its own. -/
def prettyItems (depth : Nat) : List Json → List Char
  | [] => []
  | [v] => newLine depth ++ prettyChars depth v
  | v :: w :: rest => newLine depth ++ prettyChars depth v ++ ',' :: prettyItems depth (w :: rest)

/-- Members, each on a line of its own. -/
def prettyMembers (depth : Nat) : List (String × Json) → List Char
  | [] => []
  | [(k, v)] => newLine depth ++ stringText k ++ ':' :: ' ' :: prettyChars depth v
  | (k, v) :: m :: rest =>
    newLine depth ++ stringText k ++ ':' :: ' ' :: prettyChars depth v ++
      ',' :: prettyMembers depth (m :: rest)

end

/-- A value as text without white space. -/
def compact (v : Json) : String := String.ofList (compactChars v)

/-- A value as indented text. -/
def pretty (v : Json) : String := String.ofList (prettyChars 0 v)

end SdnZones.Json
