-- SUMMARY: Writing TOML: texts in the plainest form that holds them, and lines of entries.
import SdnZones.Number.Binary64
import SdnZones.Text.Percent
import SdnZones.Text.Numeral
import SdnZones.Toml.Value

/-!
# Writing TOML

A text is written in the first of four forms that holds it without an escape: basic,
literal, basic on several lines, literal on several lines. If there is none, escapes are
used. A text with line ends starts on a line of its own.
-/

namespace SdnZones.Toml

/-! ## What a text needs -/

/-- A control character that only an escape can write. -/
def needsCode (c : Char) : Bool :=
  (c.toNat ≤ 0x1F && c != '\t' && c != '\n') || c.toNat == 0x7F

/-- The longest run of a character, after `current` of them. -/
def longestRun (mark : Char) (current : Nat) : List Char → Nat
  | [] => current
  | c :: rest =>
    if c = mark then longestRun mark (current + 1) rest
    else max current (longestRun mark 0 rest)

/-- Whether a text goes over several lines. -/
def hasBreak (cs : List Char) : Bool := cs.contains '\n'

/-- Whether a basic text on one line holds it as it is. -/
def fitsBasic (cs : List Char) : Bool :=
  cs.all fun c => !needsCode c && c != '\\' && c != '"' && c != '\n'

/-- Whether a literal text on one line holds it. -/
def fitsLiteral (cs : List Char) : Bool :=
  cs.all fun c => !needsCode c && c != '\'' && c != '\n'

/-- Whether a basic text on several lines holds it as it is. -/
def fitsLongBasic (cs : List Char) : Bool :=
  (cs.all fun c => !needsCode c && c != '\\') && longestRun '"' 0 cs ≤ 2

/-- Whether a literal text on several lines holds it. -/
def fitsLongLiteral (cs : List Char) : Bool :=
  (cs.all fun c => !needsCode c) && longestRun '\'' 0 cs ≤ 2

/-! ## Escapes -/

/-- The escape of a control character by its code. -/
def codeEscape (c : Char) : List Char :=
  let n := c.toNat
  ['\\', 'u', '0', '0', Percent.hexDigit (n / 16), Percent.hexDigit (n % 16)]

/-- The short escape of a character, if it has one and needs it. -/
def shortEscape? (long : Bool) : Char → Option Char
  | '\x08' => some 'b'
  | '\t' => some 't'
  | '\n' => if long then none else some 'n'
  | '\x0c' => some 'f'
  | '\r' => some 'r'
  | '\\' => some '\\'
  | _ => none

/-- The characters of a basic text after `quotes` quotes that stand unescaped in a row. On
several lines two of them may. -/
def escaped (long : Bool) (quotes : Nat) : List Char → List Char
  | [] => []
  | c :: rest =>
    if c = '"' then
      if quotes < (if long then 2 else 0) then '"' :: escaped long (quotes + 1) rest
      else '\\' :: '"' :: escaped long 0 rest
    else
      match shortEscape? long c with
      | some e => '\\' :: e :: escaped long 0 rest
      | none =>
        if needsCode c then codeEscape c ++ escaped long 0 rest
        else c :: escaped long 0 rest

/-! ## Texts and entries -/

/-- Three of a quote. -/
def triple (quote : Char) : List Char := [quote, quote, quote]

/-- The line end that a text with line ends starts with. -/
def firstBreak (cs : List Char) : List Char := if hasBreak cs then ['\n'] else []

/-- A text in the plainest form that holds it. -/
def writeText (cs : List Char) : List Char :=
  if fitsBasic cs then '"' :: escaped false 0 cs ++ ['"']
  else if fitsLiteral cs then '\'' :: cs ++ ['\'']
  else if fitsLongBasic cs then
    triple '"' ++ firstBreak cs ++ escaped true 0 cs ++ triple '"'
  else if fitsLongLiteral cs then triple '\'' ++ firstBreak cs ++ cs ++ triple '\''
  else if hasBreak cs then triple '"' ++ firstBreak cs ++ escaped true 0 cs ++ triple '"'
  else '"' :: escaped false 0 cs ++ ['"']

/-- A value as it is written; only texts, truth values and integers are. An integer has to be
a 64-bit word with sign. -/
def write? : Value → Option String
  | .text s => some (String.ofList (writeText s.toList))
  | .bool b => some (if b then "true" else "false")
  | .int i => if Numeral.fitsInt64 i then some i.repr else none
  | _ => none

/-- Entries with bare names as they are written, a line each. -/
def writeEntries? : Entries → Option String
  | [] => some ""
  | (name, v) :: rest =>
    match write? v, writeEntries? rest with
    | some text, some lines => some (name ++ " = " ++ text ++ "\n" ++ lines)
    | _, _ => none

end SdnZones.Toml
