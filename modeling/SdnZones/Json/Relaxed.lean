-- SUMMARY: Reading JSON as it is written by hand, with comments, bare names and spare commas.
import SdnZones.Json.Value
import SdnZones.Number.Numeral
import SdnZones.Text.Blank

/-!
# Relaxed JSON

Besides what JSON allows, there may be comments and any white space, a comma behind the
last item, names without quotes, strings in single quotes and over several lines, and
more ways to write a number. Integers have to fit into 64 bits, those in hexadecimal
into 32.
-/

namespace SdnZones.Json.Relaxed

/-! ## White space and comments -/

/-- A character that ends a line. -/
def isLineEnd (c : Char) : Bool := c == '\n' || c == '\r' || c == '\u2028' || c == '\u2029'

/-- White space between tokens. -/
def isSpace (c : Char) : Bool := (Text.isBlank c && c != '\x85') || c == '\uFEFF'

/-- What follows the end of a comment in stars. -/
def afterStars? : List Char → Option (List Char)
  | [] => none
  | '*' :: '/' :: rest => some rest
  | _ :: rest => afterStars? rest

/-- Skip white space and comments in a text of at most so many characters. -/
def skipFrom : Nat → List Char → List Char
  | 0, cs => cs
  | _, [] => []
  | fuel + 1, c :: rest =>
    if isSpace c then skipFrom fuel rest
    else
      match c, rest with
      | '/', '/' :: rest => skipFrom fuel (rest.dropWhile fun c => !isLineEnd c)
      | '/', '*' :: rest =>
        match afterStars? rest with
        | some rest => skipFrom fuel rest
        | none => c :: '*' :: rest
      | c, rest => c :: rest

/-- Skip white space and comments. -/
def skip (cs : List Char) : List Char := skipFrom cs.length cs

/-! ## Strings and names -/

/-- The character that a letter after a backslash stands for. -/
def escaped? (c : Char) : Option Char :=
  match c with
  | 'b' => some '\x08'
  | 'f' => some '\x0c'
  | 'n' => some '\n'
  | 'r' => some '\r'
  | 't' => some '\t'
  | 'v' => some '\x0b'
  | c => if c.isDigit || c == 'x' || c == 'u' then none else some c

/-- The character of two codes that are the halves of one. -/
def pair? (high low : List Char) : Option Char :=
  match Numeral.nat? 16 high, Numeral.nat? 16 low with
  | some h, some l =>
    if 0xD800 ≤ h ∧ h ≤ 0xDBFF ∧ 0xDC00 ≤ l ∧ l ≤ 0xDFFF then
      some (Char.ofNat (0x10000 + (h - 0xD800) * 0x400 + (l - 0xDC00)))
    else none
  | _, _ => none

/-- Whether the text goes on with a digit. -/
def startsDigit : List Char → Bool
  | c :: _ => c.isDigit
  | [] => false

/-- The rest of a string in `quote`, and what follows it; `acc` is what came before in reverse
order. -/
def takeString (quote : Char) (acc : List Char) : List Char → Option (String × List Char)
  | [] => none
  | '\\' :: 'u' :: a :: b :: c :: d :: rest =>
    match Numeral.charOfHex? [a, b, c, d] with
    | some x => takeString quote (x :: acc) rest
    | none =>
      match rest with
      | '\\' :: 'u' :: e :: f :: g :: h :: rest =>
        match pair? [a, b, c, d] [e, f, g, h] with
        | some x => takeString quote (x :: acc) rest
        | none => none
      | _ => none
  | '\\' :: 'x' :: a :: b :: rest =>
    match Numeral.charOfHex? [a, b] with
    | some x => takeString quote (x :: acc) rest
    | none => none
  | '\\' :: '0' :: rest =>
    if startsDigit rest then none else takeString quote ('\x00' :: acc) rest
  | '\\' :: '\r' :: '\n' :: rest => takeString quote acc rest
  | '\\' :: c :: rest =>
    if isLineEnd c then takeString quote acc rest
    else
      match escaped? c with
      | some x => takeString quote (x :: acc) rest
      | none => none
  | c :: rest =>
    if c = quote then some (String.ofList acc.reverse, rest)
    else if isLineEnd c || c == '\\' then none
    else takeString quote (c :: acc) rest
termination_by cs => cs.length

/-- A character that a bare name may start with. -/
def startsName (c : Char) : Bool :=
  c.isAlpha || c == '$' || c == '_' || (0x80 ≤ c.toNat && !isSpace c)

/-- A character of a bare name. -/
def isNameChar (c : Char) : Bool := startsName c || c.isDigit

/-- The rest of a bare name, and what follows it. -/
def takeName (acc : List Char) : List Char → Option (String × List Char)
  | '\\' :: 'u' :: a :: b :: c :: d :: rest =>
    match Numeral.charOfHex? [a, b, c, d] with
    | some x => takeName (x :: acc) rest
    | none => none
  | c :: rest =>
    if isNameChar c then takeName (c :: acc) rest
    else if acc.isEmpty then none
    else some (String.ofList acc.reverse, c :: rest)
  | [] => none

/-- The name of a member, and what follows it. -/
def takeKey : List Char → Option (String × List Char)
  | '"' :: rest => takeString '"' [] rest
  | '\'' :: rest => takeString '\'' [] rest
  | c :: rest => if c.isDigit then none else takeName [] (c :: rest)
  | [] => none

/-! ## Words -/

/-- A character of a number or of another word. -/
def isWordChar (c : Char) : Bool := c.isAlphanum || c == '+' || c == '-' || c == '.'

/-- Whether the digits of an unsigned number do not start with a needless zero. -/
def isTight : List Char → Bool
  | '0' :: c :: _ => !c.isDigit
  | _ => true

/-- The number of a word. -/
def number? (word : List Char) : Option Json :=
  let bare :=
    match word with
    | '+' :: rest => rest
    | '-' :: rest => rest
    | word => word
  if !isTight bare then none
  else if word.contains '.' || word.contains 'e' || word.contains 'E' then
    (Binary64.ofNumeral? word).bind fun x => if x.isFinite then some (.float x) else none
  else (Numeral.int? 10 word).bind fun i => if Numeral.fitsInt64 i then some (.int i) else none

/-- The value of a word. -/
def word? (word : List Char) : Option Json :=
  match String.ofList word with
  | "null" => some .null
  | "true" => some (.bool true)
  | "false" => some (.bool false)
  | "Infinity" => some (.float (.infinite false))
  | "-Infinity" => some (.float (.infinite true))
  | "NaN" => some (.float .nan)
  | "-NaN" => some (.float .nan)
  | _ =>
    match word with
    | '0' :: x :: digits =>
      if x = 'x' ∨ x = 'X' then
        (Numeral.nat? 16 digits).bind fun n => if n < twoTo 32 then some (.int n) else none
      else number? word
    | word => number? word

/-! ## Values -/

mutual

/-- The value at the start of a text, and what follows it. -/
def takeValue : Nat → List Char → Option (Json × List Char)
  | 0, _ => none
  | fuel + 1, cs =>
    match skip cs with
    | '[' :: rest => (takeItems fuel [] rest).map fun (items, rest) => (.array items, rest)
    | '\x7b' :: rest => (takeMembers fuel [] rest).map fun (ms, rest) => (.object ms, rest)
    | '"' :: rest => (takeString '"' [] rest).map fun (s, rest) => (.text s, rest)
    | '\'' :: rest => (takeString '\'' [] rest).map fun (s, rest) => (.text s, rest)
    | cs =>
      let (word, rest) := cs.span isWordChar
      (word? word).map fun v => (v, rest)

/-- The items up to the end of an array, and what follows it. -/
def takeItems : Nat → List Json → List Char → Option (List Json × List Char)
  | 0, _, _ => none
  | fuel + 1, acc, cs =>
    match skip cs with
    | ']' :: rest => some (acc.reverse, rest)
    | cs =>
      match takeValue fuel cs with
      | none => none
      | some (v, rest) =>
        match skip rest with
        | ',' :: rest => takeItems fuel (v :: acc) rest
        | ']' :: rest => some ((v :: acc).reverse, rest)
        | _ => none

/-- The members up to the end of an object, and what follows it. -/
def takeMembers :
    Nat → List (String × Json) → List Char → Option (List (String × Json) × List Char)
  | 0, _, _ => none
  | fuel + 1, acc, cs =>
    match skip cs with
    | '\x7d' :: rest => some (acc.reverse, rest)
    | cs =>
      match takeKey cs with
      | none => none
      | some (name, rest) =>
        match skip rest with
        | ':' :: rest =>
          match takeValue fuel rest with
          | none => none
          | some (v, rest) =>
            match skip rest with
            | ',' :: rest => takeMembers fuel ((name, v) :: acc) rest
            | '\x7d' :: rest => some (((name, v) :: acc).reverse, rest)
            | _ => none
        | _ => none

end

/-- The value that a text writes; of members with one name the last stays. -/
def parse (text : String) : Option Json :=
  match takeValue (text.length + 1) text.toList with
  | some (v, rest) => if (skip rest).isEmpty then some v else none
  | none => none

end SdnZones.Json.Relaxed
