-- SUMMARY: Reading texts in TOML: basic and literal, on one line or on several.
import SdnZones.Text.Numeral

/-!
# Texts in TOML

A basic text has escapes, a literal one has none; in three quotes either may go over
several lines. Each scanner is given what follows the opening quotes and gives the text
and what follows the closing ones, or nothing if the text is not closed or holds a
character that it may not.
-/

namespace SdnZones.Toml

/-- A space or a tab. -/
def isSpace (c : Char) : Bool := c == ' ' || c == '\t'

/-- A character that may stand in a comment or in a text. -/
def isPrintable (c : Char) : Bool := c == '\t' || (0x20 ≤ c.toNat && c.toNat != 0x7F)

/-- The character that an escape of one letter stands for. -/
def escape? : Char → Option Char
  | 'b' => some '\x08'
  | 't' => some '\t'
  | 'n' => some '\n'
  | 'f' => some '\x0c'
  | 'r' => some '\r'
  | '"' => some '"'
  | '\\' => some '\\'
  | _ => none

/-- Scan a basic text on one line; `acc` is what came before in reverse order. -/
def scanBasic (acc : List Char) : List Char → Option (List Char × List Char)
  | [] => none
  | '"' :: rest => some (acc.reverse, rest)
  | '\\' :: 'u' :: a :: b :: c :: d :: rest =>
    match Numeral.charOfHex? [a, b, c, d] with
    | some x => scanBasic (x :: acc) rest
    | none => none
  | '\\' :: 'U' :: a :: b :: c :: d :: e :: f :: g :: h :: rest =>
    match Numeral.charOfHex? [a, b, c, d, e, f, g, h] with
    | some x => scanBasic (x :: acc) rest
    | none => none
  | '\\' :: c :: rest =>
    match escape? c with
    | some x => scanBasic (x :: acc) rest
    | none => none
  | c :: rest => if isPrintable c && c != '\\' then scanBasic (c :: acc) rest else none

/-- Scan a literal text on one line. -/
def scanLiteral (acc : List Char) : List Char → Option (List Char × List Char)
  | [] => none
  | '\'' :: rest => some (acc.reverse, rest)
  | c :: rest => if isPrintable c then scanLiteral (c :: acc) rest else none

/-- Whether nothing but spaces stands before the end of the line. -/
def spacesOnly (cs : List Char) : Bool :=
  match cs.dropWhile isSpace with
  | '\n' :: _ => true
  | '\r' :: '\n' :: _ => true
  | _ => false

/-- Scan a basic text on several lines. After a backslash at the end of a line, blanks and
line ends are skipped while `skipping`. Up to two quotes may stand before the closing ones. -/
def scanLongBasic (acc : List Char) (skipping : Bool) : List Char → Option (List Char × List Char)
  | [] => none
  | '"' :: '"' :: '"' :: '"' :: '"' :: rest => some (('"' :: '"' :: acc).reverse, rest)
  | '"' :: '"' :: '"' :: '"' :: rest => some (('"' :: acc).reverse, rest)
  | '"' :: '"' :: '"' :: rest => some (acc.reverse, rest)
  | '\\' :: 'u' :: a :: b :: c :: d :: rest =>
    match Numeral.charOfHex? [a, b, c, d] with
    | some x => scanLongBasic (x :: acc) false rest
    | none => none
  | '\\' :: 'U' :: a :: b :: c :: d :: e :: f :: g :: h :: rest =>
    match Numeral.charOfHex? [a, b, c, d, e, f, g, h] with
    | some x => scanLongBasic (x :: acc) false rest
    | none => none
  | '\\' :: c :: rest =>
    match escape? c with
    | some x => scanLongBasic (x :: acc) false rest
    | none => if spacesOnly (c :: rest) then scanLongBasic acc true (c :: rest) else none
  | '\r' :: '\n' :: rest => scanLongBasic (if skipping then acc else '\n' :: acc) skipping rest
  | '\n' :: rest => scanLongBasic (if skipping then acc else '\n' :: acc) skipping rest
  | c :: rest =>
    if skipping && isSpace c then scanLongBasic acc true rest
    else if isPrintable c && c != '\\' then scanLongBasic (c :: acc) false rest
    else none

/-- Scan a literal text on several lines. -/
def scanLongLiteral (acc : List Char) : List Char → Option (List Char × List Char)
  | [] => none
  | '\'' :: '\'' :: '\'' :: '\'' :: '\'' :: rest => some (('\'' :: '\'' :: acc).reverse, rest)
  | '\'' :: '\'' :: '\'' :: '\'' :: rest => some (('\'' :: acc).reverse, rest)
  | '\'' :: '\'' :: '\'' :: rest => some (acc.reverse, rest)
  | '\r' :: '\n' :: rest => scanLongLiteral ('\n' :: acc) rest
  | '\n' :: rest => scanLongLiteral ('\n' :: acc) rest
  | c :: rest => if isPrintable c then scanLongLiteral (c :: acc) rest else none

/-- What follows a line end that may stand at the start. -/
def skipFirstBreak : List Char → List Char
  | '\n' :: rest => rest
  | '\r' :: '\n' :: rest => rest
  | cs => cs

/-- The text on one line at the start, if a quote stands there. -/
def shortText? : List Char → Option (List Char × List Char)
  | '"' :: rest => scanBasic [] rest
  | '\'' :: rest => scanLiteral [] rest
  | _ => none

/-- The text at the start, if a quote stands there. -/
def text? : List Char → Option (List Char × List Char)
  | '"' :: '"' :: '"' :: rest => scanLongBasic [] false (skipFirstBreak rest)
  | '\'' :: '\'' :: '\'' :: rest => scanLongLiteral [] (skipFirstBreak rest)
  | cs => shortText? cs

end SdnZones.Toml
