-- SUMMARY: YAML documents of JSON values, in block style.
import SdnZones.Yaml.Scalar

/-!
# YAML documents

A value is written in block style: a member or an item a line, members two spaces
deeper than the object around them, items of a list no deeper than the member that
holds them. An empty list is `[]` and an empty object is written as a pair of braces.
-/

namespace SdnZones.Yaml

/-- Lines that have been written, each with its end. -/
structure Lines where
  chars : List Char
  /-- Whether the document has to be closed, as far as the last block decided it. -/
  openEnded : Bool

/-- Append to lines. -/
def Lines.append (a : Lines) (chars : List Char) : Lines := { a with chars := a.chars ++ chars }

/-- Finish the line of a scalar. -/
def Lines.scalar (a : Lines) (w : Scalar.Written) : Lines where
  chars := a.chars ++ w.chars ++ (if w.lineEnded then [] else ['\n'])
  openEnded := w.openEnded.getD a.openEnded

/-- Spaces. -/
def pad (n : Nat) : List Char := List.replicate n ' '

/-- The text of a value that is not a list, an object or a text. -/
def atomChars : Json → List Char
  | .null => "null".toList
  | .bool b => (if b then "true" else "false").toList
  | .int i => i.repr.toList
  | .float x =>
    match x with
    | .infinite negative => (if negative then "-.inf" else ".inf").toList
    | .nan => ".nan".toList
    | x => x.text.toList
  | _ => []

mutual

/-- The items of a list that is not empty; the first goes on in the line that has begun. -/
def writeItems (indent : Nat) (first : Bool) (a : Lines) : List Json → Lines
  | [] => a
  | v :: rest =>
    let a := a.append ((if first then [] else pad indent) ++ ['-'])
    writeItems indent false (writeValue indent false a v) rest

/-- The members of an object that is not empty; the first goes on in the line that has begun. -/
def writeMembers (indent : Nat) (first : Bool) (a : Lines) : List (String × Json) → Lines
  | [] => a
  | (k, v) :: rest =>
    let key := (Scalar.write (indent + 2) k).chars
    let a := a.append ((if first then [] else pad indent) ++ key ++ [':'])
    writeMembers indent false (writeValue indent true a v) rest

/-- A value after the dash or the name that it belongs to. -/
def writeValue (indent : Nat) (member : Bool) (a : Lines) : Json → Lines
  | .array [] => a.append [' ', '[', ']', '\n']
  | .array (v :: rest) =>
    if member then writeItems indent true ((a.append ['\n']).append (pad indent)) (v :: rest)
    else writeItems (indent + 2) true (a.append [' ']) (v :: rest)
  | .object [] => a.append [' ', '\x7b', '\x7d', '\n']
  | .object (m :: rest) =>
    if member then
      writeMembers (indent + 2) true ((a.append ['\n']).append (pad (indent + 2))) (m :: rest)
    else writeMembers (indent + 2) true (a.append [' ']) (m :: rest)
  | .text s => (a.append [' ']).scalar (Scalar.write (indent + 2) s)
  | v => (a.append [' ']).scalar { chars := atomChars v }

end

/-- The lines of a value at the top. -/
def writeTop : Json → Lines
  | .array [] => ⟨['[', ']', '\n'], false⟩
  | .array (v :: rest) => writeItems 0 true ⟨[], false⟩ (v :: rest)
  | .object [] => ⟨['\x7b', '\x7d', '\n'], false⟩
  | .object (m :: rest) => writeMembers 0 true ⟨[], false⟩ (m :: rest)
  | .text s => Lines.scalar ⟨[], false⟩ (Scalar.write 2 s)
  | v => Lines.scalar ⟨[], false⟩ { chars := atomChars v }

/-- A value as a YAML document. -/
def document (v : Json) : String :=
  let lines := writeTop v
  String.ofList (lines.chars ++ (if lines.openEnded then "...\n".toList else []))

end SdnZones.Yaml
