-- SUMMARY: How a text is written as a YAML scalar: plain, quoted or as a literal block.
import SdnZones.Decode.Datum
import SdnZones.Number.Numeral
import SdnZones.Text.Utf8

/-!
# YAML scalars

A text is written plain if that reads back as the same text, otherwise in single
quotes, in double quotes if it needs escapes, and as a literal block if it has several
lines. `Scalar.write` decides by what `Scalar.Traits` says about the text.
-/

namespace SdnZones.Yaml

/-- A character that ends a line. -/
def isBreak (c : Char) : Bool :=
  c == '\n' || c == '\r' || c == '\x85' || c == '\u2028' || c == '\u2029'

/-- A character that ends a line, a space, or a tab. -/
def isBlankOrBreak (c : Char) : Bool := c == ' ' || c == '\t' || isBreak c

/-- A character that may stand unescaped. -/
def isPlainChar (c : Char) : Bool :=
  let n := c.toNat
  n == 0x0A || (0x20 ≤ n && n ≤ 0x7E) ||
    (0xA0 ≤ n && n != 0xFEFF && n != 0xFFFE && n != 0xFFFF)

namespace Scalar

/-! ## Words that would read as something else -/

/-- A plain scalar that reads as a float. -/
def isFloat (s : String) : Bool :=
  let cs := s.toList
  let (bare, signs) :=
    match cs with
    | '+' :: rest => (rest, match rest with | '+' :: _ => true | '-' :: _ => true | _ => false)
    | cs => (cs, false)
  if signs then false
  else
    [".inf", ".Inf", ".INF"].contains (String.ofList bare) ||
      ["-.inf", "-.Inf", "-.INF", ".nan", ".NaN", ".NAN"].contains s ||
      match Binary64.ofNumeral? bare with
      | some x => x.isFinite
      | none => false

/-- Whether an integer is one of 128 bits, with or without a sign. -/
def fits128 (i : Int) : Bool := -(twoTo 127 : Int) ≤ i && i < twoTo 128

/-- Whether a text, written plain, would not read as a text. -/
def isAmbiguous (s : String) : Bool :=
  s.isEmpty || Plain.isNull s || (Plain.bool? s).isSome || Plain.isPaddedNumber s ||
    isFloat s ||
    match Plain.int? s with
    | some i => fits128 i
    | none => false

/-! ## Traits of a text -/

/-- What matters about a text for how it can be written. -/
structure Traits where
  /-- Plain text would be taken for structure. -/
  indicators : Bool := false
  lineBreaks : Bool := false
  /-- A character needs an escape. -/
  special : Bool := false
  edgeBlank : Bool := false
  trailingSpace : Bool := false
  /-- A space follows a line break. -/
  breakSpace : Bool := false
  /-- A line break follows a space. -/
  spaceBreak : Bool := false

/-- A character that is an indicator at the start of a text. -/
def startsStructure (c : Char) (followed : Bool) : Bool :=
  ['#', ',', '[', ']', '\x7b', '\x7d', '&', '*', '!', '|', '>', '\'', '"', '%', '@',
    Char.ofNat 0x60].contains c ||
    (['?', ':', '-'].contains c && followed)

/-- Collect the traits of what is left of a text, after the character `previous`. -/
def scanTraits (previous : Option Char) (t : Traits) : List Char → Traits
  | [] =>
    match previous with
    | some c =>
      { t with
        edgeBlank := t.edgeBlank || c == ' ' || isBreak c
        trailingSpace := c == ' ' }
    | none => t
  | c :: rest =>
    let followed :=
      match rest with
      | [] => true
      | d :: _ => isBlankOrBreak d || d == '\x00'
    let here :=
      match previous with
      | none => startsStructure c followed
      | some p =>
        (c == ':' && followed) || (c == '#' && (isBlankOrBreak p || p == '\x00'))
    let after (test : Char → Bool) : Bool := previous.any test
    scanTraits (some c)
      { t with
        indicators := t.indicators || here
        lineBreaks := t.lineBreaks || isBreak c
        special := t.special || !isPlainChar c
        edgeBlank := t.edgeBlank || (previous.isNone && (c == ' ' || isBreak c))
        breakSpace := t.breakSpace || (c == ' ' && after isBreak)
        spaceBreak := t.spaceBreak || (isBreak c && after (· == ' ')) } rest

/-- The traits of a text. -/
def traits (cs : List Char) : Traits :=
  let marker := "---".toList.isPrefixOf cs || "...".toList.isPrefixOf cs
  scanTraits none { indicators := marker } cs

/-- Whether a text can be written plain. -/
def Traits.plainAllowed (t : Traits) : Bool :=
  !(t.indicators || t.lineBreaks || t.special || t.edgeBlank || t.breakSpace || t.spaceBreak)

/-- Whether a text can be written in single quotes. -/
def Traits.singleAllowed (t : Traits) : Bool := !(t.special || t.breakSpace || t.spaceBreak)

/-- Whether a text can be written as a block. -/
def Traits.blockAllowed (t : Traits) : Bool := !(t.special || t.trailingSpace || t.spaceBreak)

/-! ## Styles -/

/-- Hexadecimal digits in upper case, padded with zeros to a width. -/
def hexPadded (width n : Nat) : List Char :=
  let digits := (Nat.toDigits 16 n).map Char.toUpper
  List.replicate (width - digits.length) '0' ++ digits

/-- The letter that stands for a character after a backslash. -/
def escapeLetter? (c : Char) : Option Char :=
  match c.toNat with
  | 0x00 => some '0'
  | 0x07 => some 'a'
  | 0x08 => some 'b'
  | 0x09 => some 't'
  | 0x0A => some 'n'
  | 0x0B => some 'v'
  | 0x0C => some 'f'
  | 0x0D => some 'r'
  | 0x1B => some 'e'
  | 0x22 => some '"'
  | 0x5C => some '\\'
  | 0x85 => some 'N'
  | 0x2028 => some 'L'
  | 0x2029 => some 'P'
  | _ => none

/-- A character inside double quotes. -/
def doubleQuotedChar (c : Char) : List Char :=
  if isPlainChar c && !isBreak c && c != '"' && c != '\\' then [c]
  else
    match escapeLetter? c with
    | some letter => ['\\', letter]
    | none =>
      let n := c.toNat
      if n ≤ 0xFF then '\\' :: 'x' :: hexPadded 2 n
      else if n ≤ 0xFFFF then '\\' :: 'u' :: hexPadded 4 n
      else '\\' :: 'U' :: hexPadded 8 n

/-- A text in double quotes. -/
def doubleQuoted (cs : List Char) : List Char := '"' :: cs.flatMap doubleQuotedChar ++ ['"']

/-- The rest of a text in single quotes; lines after a break are indented. -/
def singleQuotedRest (indent : Nat) (broken : Bool) : List Char → List Char
  | [] => (if broken then List.replicate indent ' ' else []) ++ ['\'']
  | c :: rest =>
    if isBreak c then c :: singleQuotedRest indent true rest
    else
      (if broken then List.replicate indent ' ' else []) ++
        (if c = '\'' then ['\'', '\''] else [c]) ++ singleQuotedRest indent false rest

/-- A text in single quotes. -/
def singleQuoted (indent : Nat) (cs : List Char) : List Char :=
  '\'' :: singleQuotedRest indent false cs

/-- The lines of a literal block. -/
def literalLines (indent : Nat) (broken : Bool) : List Char → List Char
  | [] => []
  | c :: rest =>
    if isBreak c then c :: literalLines indent true rest
    else (if broken then List.replicate indent ' ' else []) ++ c :: literalLines indent false rest

/-- What a literal block says about the line breaks at its end. -/
inductive Chomping where
  /-- There is none. -/
  | strip
  /-- There is one. -/
  | clip
  /-- There are several, or there is nothing else. -/
  | keep
deriving DecidableEq

/-- How a literal block has to treat the end of a text. -/
def chomping (cs : List Char) : Chomping :=
  match cs.reverse with
  | [] => .strip
  | [c] => if isBreak c then .keep else .strip
  | c :: d :: _ => if !isBreak c then .strip else if isBreak d then .keep else .clip

/-- A text as a literal block. -/
def literal (indent : Nat) (cs : List Char) : List Char :=
  let hint :=
    match cs with
    | c :: _ => if c = ' ' ∨ isBreak c then ['2'] else []
    | [] => []
  let chomp :=
    match chomping cs with
    | .strip => ['-']
    | .clip => []
    | .keep => ['+']
  '|' :: (hint ++ chomp ++ '\n' :: literalLines indent true cs)

/-- A scalar that has been written. -/
structure Written where
  chars : List Char
  /-- The scalar has ended its last line itself. -/
  lineEnded : Bool := false
  /-- Whether the document has to be closed after the scalar, where it is a block. -/
  openEnded : Option Bool := none

/-- Write a text whose further lines are indented. -/
def write (indent : Nat) (s : String) : Written :=
  let cs := s.toList
  let t := traits cs
  if cs.contains '\n' then
    if t.blockAllowed then {
      chars := literal indent cs
      lineEnded := cs.getLast?.any isBreak
      openEnded := some (chomping cs = .keep) }
    else { chars := doubleQuoted cs }
  else if !isAmbiguous s && t.plainAllowed then { chars := cs }
  else if t.singleAllowed then { chars := singleQuoted indent cs }
  else { chars := doubleQuoted cs }

end Scalar

end SdnZones.Yaml
