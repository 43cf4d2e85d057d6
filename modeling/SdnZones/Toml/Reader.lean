-- SUMMARY: Reading TOML text as a table.
import SdnZones.Decode.Datum
import SdnZones.Toml.Text
import SdnZones.Toml.Word

/-!
# Reading TOML

A text is read line by line: an entry goes to the table of the last header, a header
starts a table. `Toml.parse` gives the entries of the whole text, or nothing if any
part of it breaks the rules, and `Toml.read` gives them as a datum.
-/

namespace SdnZones.Toml

/-! ## Gaps -/

/-- What follows the spaces at the start. -/
def skipSpaces (cs : List Char) : List Char := cs.dropWhile isSpace

/-- What follows a comment that may stand at the start. -/
def skipComment : List Char → List Char
  | '#' :: rest => rest.dropWhile isPrintable
  | cs => cs

/-- What follows the end of a line, before which a comment may stand. -/
def endLine? (cs : List Char) : Option (List Char) :=
  match skipComment (skipSpaces cs) with
  | [] => some []
  | '\n' :: rest => some rest
  | '\r' :: '\n' :: rest => some rest
  | _ => none

/-- What follows spaces, comments and line ends at the start, with the state of a comment. -/
def skipGap (comment : Bool) : List Char → List Char
  | [] => []
  | '\r' :: '\n' :: rest => skipGap false rest
  | '\n' :: rest => skipGap false rest
  | c :: rest =>
    if comment && isPrintable c then skipGap true rest
    else if comment then c :: rest
    else if isSpace c then skipGap false rest
    else if c = '#' then skipGap true rest
    else c :: rest

/-! ## Names -/

/-- A character of a name without quotes. -/
def isBare (c : Char) : Bool := c.isAlphanum || c == '_' || c == '-'

/-- The name at the start. -/
def name? (cs : List Char) : Option (String × List Char) :=
  let (bare, rest) := cs.span isBare
  if bare.isEmpty then (shortText? cs).map fun (name, rest) => (String.ofList name, rest)
  else some (String.ofList bare, rest)

/-- The longest dotted name, and the deepest nesting of brackets and braces. -/
def maxDepth : Nat := 79

/-- The names with points between them at the start, and what follows the spaces after them. -/
def path? : Nat → List Char → Option (List String × List Char)
  | 0, _ => none
  | fuel + 1, cs =>
    match name? (skipSpaces cs) with
    | none => none
    | some (name, rest) =>
      match skipSpaces rest with
      | '.' :: rest => (path? fuel rest).map fun (path, rest) => (name :: path, rest)
      | rest => some ([name], rest)

/-! ## Values -/

/-- How a value begins that is no word. -/
inductive Opening where
  | bracket
  | brace
  | quote

/-- How the value at the start begins. -/
def opening : List Char → Option Opening
  | '[' :: _ => some .bracket
  | '\x7b' :: _ => some .brace
  | '"' :: _ => some .quote
  | '\'' :: _ => some .quote
  | _ => none

mutual

/-- The value at the start, inside brackets or braces of some depth. -/
def value? (depth : Nat) : Nat → List Char → Option (Value × List Char)
  | 0, _ => none
  | fuel + 1, cs =>
    match opening cs with
    | some .bracket => if depth < maxDepth then items? (depth + 1) [] fuel cs.tail else none
    | some .brace =>
      if depth < maxDepth then
        match skipSpaces cs.tail with
        | '\x7d' :: rest => some (.inline [], rest)
        | _ => members? (depth + 1) [] fuel cs.tail
      else none
    | some .quote => (text? cs).map fun (s, rest) => (.text (String.ofList s), rest)
    | none =>
      let (word, rest) := takeWord cs
      (Value.ofWord? word).map fun v => (v, rest)
termination_by structural fuel => fuel

/-- The items that are left in brackets; those before stand in reverse order. -/
def items? (depth : Nat) (before : List Value) : Nat → List Char → Option (Value × List Char)
  | 0, _ => none
  | fuel + 1, cs =>
    match skipGap false cs with
    | ']' :: rest => some (.array before.reverse, rest)
    | cs =>
      match value? depth fuel cs with
      | none => none
      | some (v, rest) =>
        match skipGap false rest with
        | ',' :: rest => items? depth (v :: before) fuel rest
        | ']' :: rest => some (.array (v :: before).reverse, rest)
        | _ => none
termination_by structural fuel => fuel

/-- The entries that are left in braces. -/
def members? (depth : Nat) (before : Entries) : Nat → List Char → Option (Value × List Char)
  | 0, _ => none
  | fuel + 1, cs =>
    match entry? depth fuel cs with
    | none => none
    | some (path, v, rest) =>
      match before.put v path with
      | none => none
      | some entries =>
        match skipSpaces rest with
        | ',' :: rest => members? depth entries fuel rest
        | '\x7d' :: rest => some (.inline entries, rest)
        | _ => none
termination_by structural fuel => fuel

/-- A dotted name, an equals sign and a value at the start. -/
def entry? (depth : Nat) : Nat → List Char → Option (List String × Value × List Char)
  | 0, _ => none
  | fuel + 1, cs =>
    match path? maxDepth cs with
    | some (path, '=' :: rest) =>
      (value? depth fuel (skipSpaces rest)).map fun (v, rest) => (path, v, rest)
    | _ => none
termination_by structural fuel => fuel

end

/-! ## Texts -/

/-- The path to a table and the name of the table itself. -/
def splitPath : List String → List String × String
  | [] => ([], "")
  | [name] => ([], name)
  | key :: path => ((key :: (splitPath path).1), (splitPath path).2)

/-- Read the lines that are left: the header they stand under, and what was read so far. -/
def lines? (header : List String) (root : Entries) : Nat → List Char → Option Entries
  | 0, _ => none
  | fuel + 1, cs =>
    match skipSpaces cs with
    | [] => some root
    | '\n' :: rest => lines? header root fuel rest
    | '\r' :: '\n' :: rest => lines? header root fuel rest
    | '#' :: rest =>
      match endLine? ('#' :: rest) with
      | some rest => lines? header root fuel rest
      | none => none
    | '[' :: '[' :: rest =>
      match path? maxDepth rest with
      | some (path, ']' :: ']' :: rest) =>
        let (parents, name) := splitPath path
        match root.within (Entries.startElement name) parents, endLine? rest with
        | some root, some rest => lines? path root fuel rest
        | _, _ => none
      | _ => none
    | '[' :: rest =>
      match path? maxDepth rest with
      | some (path, ']' :: rest) =>
        let (parents, name) := splitPath path
        match root.within (Entries.startTable name) parents, endLine? rest with
        | some root, some rest => lines? path root fuel rest
        | _, _ => none
      | _ => none
    | cs =>
      match entry? 0 (fuel + 1) cs with
      | some (path, v, rest) =>
        match root.within (Entries.put v path) header, endLine? rest with
        | some root, some rest => lines? header root fuel rest
        | _, _ => none
      | none => none

/-- The entries of a text, if it keeps to the rules. -/
def parse (text : String) : Option Entries :=
  let cs :=
    match text.toList with
    | c :: rest => if c.toNat = 0xFEFF then rest else c :: rest
    | [] => []
  lines? [] [] (2 * cs.length + 4) cs

/-! ## Data -/

mutual

/-- A value as a datum. Nothing that is decoded may be a date or a time. -/
def Value.toDatum : Value → Datum
  | .text s => .text s
  | .int i => .int i
  | .float x => .float x
  | .bool b => .bool b
  | .moment _ => .broken .malformed
  | .array items => .list (toItems items) none
  | .inline entries => .fields (toMembers entries) none
  | .table _ entries => .fields (toMembers entries) none
  | .tables last earlier => .list (toTables [.fields (toMembers last) none] earlier) none

/-- Values as data. -/
def toItems : List Value → List Datum
  | [] => []
  | v :: rest => v.toDatum :: toItems rest

/-- Entries as members. -/
def toMembers : List (String × Value) → List (String × Datum)
  | [] => []
  | (name, v) :: rest => (name, v.toDatum) :: toMembers rest

/-- Tables in reverse order as data before `after`. -/
def toTables (after : List Datum) : List (List (String × Value)) → List Datum
  | [] => after
  | entries :: rest => toTables (.fields (toMembers entries) none :: after) rest

end

/-- The datum of a text. -/
def read (text : String) : Datum :=
  match parse text with
  | some entries => .fields (toMembers entries) none
  | none => .broken .malformed

end SdnZones.Toml
