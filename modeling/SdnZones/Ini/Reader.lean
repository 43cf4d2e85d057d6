-- SUMMARY: Reading INI text: headings of sections, and keys with their values.
import SdnZones.Text.Blank
import SdnZones.Text.Numeral

/-!
# INI text

A heading in brackets opens a section, a key with a value after an equals sign or a
colon stands in the section that was opened last. A comment takes a whole line and
starts at its first character. Keys and headings may go over several lines; a value ends
with its line unless it is quoted.
-/

namespace SdnZones.Ini

/-- A piece of INI text. -/
inductive Piece where
  | heading (name : String)
  | entry (key value : String)
deriving DecidableEq

/-! ## Texts -/

/-- The character that a letter after a backslash stands for. -/
def escaped : Char → Char
  | '0' => '\x00'
  | 'a' => '\x07'
  | 'b' => '\x08'
  | 't' => '\t'
  | 'r' => '\r'
  | 'n' => '\n'
  | c => c

/-- The character of a code in hexadecimal digits, which may have a plus sign. -/
def coded? : List Char → Option Char
  | '+' :: digits => Numeral.charOfHex? digits
  | digits => Numeral.charOfHex? digits

/-- Take a text up to a character that ends it, which is left; `acc` is what came before in
reverse order. Only if `mayEnd` is a text allowed to go on to the end. -/
def takeText (isEnd : Char → Bool) (mayEnd : Bool) (acc : List Char) :
    List Char → Option (List Char × List Char)
  | [] => if mayEnd then some (acc.reverse, []) else none
  | '\\' :: 'x' :: a :: b :: c :: d :: rest =>
    match coded? [a, b, c, d] with
    | some x => takeText isEnd mayEnd (x :: acc) rest
    | none => none
  | '\\' :: 'x' :: _ => none
  | ['\\'] => none
  | '\\' :: c :: rest => takeText isEnd mayEnd (escaped c :: acc) rest
  | c :: rest =>
    if isEnd c then some (acc.reverse, c :: rest) else takeText isEnd mayEnd (c :: acc) rest

/-- A character that ends a line. -/
def isLineEnd (c : Char) : Bool := c == '\n' || c == '\r'

/-- What follows white space on the same line. -/
def skipInLine (cs : List Char) : List Char := cs.dropWhile fun c => Text.isBlank c && !isLineEnd c

/-- Take a value; `before` is what stands in quotes at its start, and `isStart` holds as long as
there is nothing of the kind. White space at the ends of the rest does not count, except behind
a quote. -/
def takeValue : Nat → Bool → List Char → List Char → Option (List Char × List Char)
  | 0, _, _, _ => none
  | fuel + 1, isStart, before, cs =>
    match cs with
    | '"' :: rest =>
      match takeText (· == '"') false [] rest with
      | some (part, rest) => takeValue fuel false (before ++ part) (rest.drop 1)
      | none => none
    | '\'' :: rest =>
      match takeText (· == '\'') false [] rest with
      | some (part, rest) => takeValue fuel false (before ++ part) (rest.drop 1)
      | none => none
    | cs =>
      match takeText isLineEnd true [] cs with
      | some (part, rest) =>
        some (before ++ (if isStart then Text.trim part else Text.trimEnd part), rest)
      | none => none

/-! ## Pieces -/

/-- Skip white space, and tell whether a line starts behind it. -/
def skipBlanks : Bool → List Char → Bool × List Char
  | startsLine, [] => (startsLine, [])
  | startsLine, c :: rest =>
    if Text.isBlank c then skipBlanks (c == '\n') rest else (startsLine, c :: rest)

/-- What follows the line. -/
def nextLine (cs : List Char) : List Char := (cs.dropWhile (· != '\n')).drop 1

/-- A character between a key and its value. -/
def isSign (c : Char) : Bool := c == '=' || c == ':'

/-- The pieces of a text; `key` is a key that waits for its value, empty if there is none. -/
def piecesFrom : Nat → Bool → List Char → List Char → Option (List Piece)
  | 0, _, _, _ => none
  | fuel + 1, startsLine, key, cs =>
    match skipBlanks startsLine cs with
    | (_, []) => some []
    | (startsLine, c :: rest) =>
      if c = ';' ∨ c = '#' then
        if startsLine then piecesFrom fuel true key (nextLine rest) else none
      else if c = '[' then
        match takeText (· == ']') false [] rest with
        | some (name, rest) =>
          (piecesFrom fuel false key (rest.drop 1)).map
            (.heading (String.ofList (Text.trim name)) :: ·)
        | none => none
      else if isSign c then
        if key.isEmpty then none
        else
          match takeValue (rest.length + 1) true [] (skipInLine rest) with
          | some (value, rest) =>
            (piecesFrom fuel false [] rest).map
              (.entry (String.ofList key) (String.ofList value) :: ·)
          | none => none
      else
        match takeText isSign false [] (c :: rest) with
        | some (key, rest) => piecesFrom fuel false (Text.trim key) rest
        | none => none

/-- The pieces of a text, or nothing if it breaks the rules. -/
def parse (text : String) : Option (List Piece) :=
  piecesFrom (text.length + 1) true [] text.toList

end SdnZones.Ini
