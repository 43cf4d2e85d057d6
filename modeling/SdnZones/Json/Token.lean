-- SUMMARY: The tokens of JSON text, broken ones included.
import SdnZones.Decode.Datum
import SdnZones.Text.Utf8

/-!
# JSON tokens

`Token.scan` cuts a text into tokens. A token that cannot be read says what is wrong
with it and is the last one. Numbers are integers as long as 64 bits hold them, and
doubles otherwise: a significand of 64 bits, scaled by a power of ten that is a double
itself.
-/

namespace SdnZones.Json

/-- A piece of JSON text. -/
inductive Token where
  | openArray
  | closeArray
  | openObject
  | closeObject
  | comma
  | colon
  /-- A literal or a number; one that cannot be read is broken. -/
  | scalar (d : Datum)
  /-- A string, or what is wrong with it. -/
  | text (s : Except ReadFault String)
  /-- A character that starts nothing. -/
  | other

/-- White space between tokens. -/
def isSpace (c : Char) : Bool := c == ' ' || c == '\n' || c == '\t' || c == '\r'

/-! ## Literals -/

/-- A literal whose letters have to follow, and what comes after them. -/
def scanLiteral (d : Datum) : List Char → List Char → Datum × List Char
  | [], rest => (d, rest)
  | _ :: _, [] => (.broken .truncated, [])
  | e :: letters, c :: rest =>
    if e = c then scanLiteral d letters rest else (.broken .malformed, rest)

/-! ## Numbers -/

/-- The largest significand. -/
def maxSignificand : Nat := twoTo 64 - 1

/-- Digits taken into a significand while it fits, and how many are left over. -/
def absorb (significand : Nat) : List Char → Nat × Nat × Nat
  | [] => (significand, 0, 0)
  | c :: rest =>
    let next := significand * 10 + (c.toNat - '0'.toNat)
    if next ≤ maxSignificand then
      let (final, taken, left) := absorb next rest
      (final, taken + 1, left)
    else (significand, 0, rest.length + 1)

/-- Ten to a power within the range of doubles. -/
def powerOfTen (n : Nat) : Binary64 := .ofDecimal false 1 n

/-- A double times ten to a power, in steps of at most 10^308; nothing if it is too large. -/
def scaleDecimal : Nat → Binary64 → Int → Option Binary64
  | 0, x, _ => some x
  | steps + 1, x, e =>
    if e.natAbs ≤ 308 then
      if 0 ≤ e then
        let y := x.scaleUp (powerOfTen e.natAbs)
        if y.isFinite then some y else none
      else some (x.scaleDown (powerOfTen e.natAbs))
    else if x.isZero then some x
    else if 0 ≤ e then none
    else scaleDecimal steps (x.scaleDown (powerOfTen 308)) (e + 308)

/-- A double of a significand and a power of ten. -/
def floatOf (negative : Bool) (significand : Nat) (e : Int) : Datum :=
  match scaleDecimal 5 (.ofRatio negative significand 1) e with
  | some x => .float x
  | none => .broken .malformed

/-- The digits at the start of a text, and the rest. -/
def spanDigits (cs : List Char) : List Char × List Char := cs.span Char.isDigit

/-- What follows the letter of an exponent. -/
def scanExponent (negative : Bool) (significand : Nat) (start : Int) (cs : List Char) :
    Datum × List Char :=
  let (down, cs) :=
    match cs with
    | '-' :: rest => (true, rest)
    | '+' :: rest => (false, rest)
    | cs => (false, cs)
  match spanDigits cs with
  | ([], []) => (.broken .truncated, [])
  | ([], rest) => (.broken .malformed, rest)
  | (digits, rest) =>
    let e := (Numeral.digitsFrom? 10 0 digits).getD 0
    if e ≤ 2147483647 then
      (floatOf negative significand (if down then start - e else start + e), rest)
    else if significand = 0 ∨ down then (.float (.zero negative), rest)
    else (.broken .malformed, rest)

/-- What follows the digits of a float. -/
def scanFloatEnd (negative : Bool) (significand : Nat) (start : Int) :
    List Char → Datum × List Char
  | 'e' :: rest => scanExponent negative significand start rest
  | 'E' :: rest => scanExponent negative significand start rest
  | rest => (floatOf negative significand start, rest)

/-- What follows a decimal point. -/
def scanFraction (negative : Bool) (significand : Nat) (start : Int) (cs : List Char) :
    Datum × List Char :=
  match spanDigits cs with
  | ([], []) => (.broken .truncated, [])
  | ([], rest) => (.broken .malformed, rest)
  | (digits, rest) =>
    let (significand, taken, _) := absorb significand digits
    scanFloatEnd negative significand (start - taken) rest

/-- An integer of at most 64 bits; one that a minus takes out of their range is a double. -/
def integerOf (negative : Bool) (significand : Nat) : Datum :=
  if !negative then .int significand
  else if significand = 0 ∨ twoTo 63 < significand then .float (.ofRatio true significand 1)
  else .int (-significand)

/-- A number, after its sign. -/
def scanNumber (negative : Bool) (cs : List Char) : Datum × List Char :=
  match spanDigits cs with
  | ([], []) => (.broken .truncated, [])
  | ([], rest) => (.broken .malformed, rest)
  | ('0' :: _ :: _, rest) => (.broken .malformed, rest)
  | (digits, rest) =>
    let (significand, _, left) := absorb 0 digits
    match rest with
    | '.' :: rest => scanFraction negative significand left rest
    | 'e' :: rest => scanExponent negative significand left rest
    | 'E' :: rest => scanExponent negative significand left rest
    | rest =>
      if left = 0 then (integerOf negative significand, rest)
      else (floatOf negative significand left, rest)

/-! ## Strings -/

/-- The code of four hexadecimal digits. -/
def hexCode? (a b c d : Char) : Option Nat := Numeral.nat? 16 [a, b, c, d]

/-- The fault of an escape without four digits. -/
def shortEscape (rest : List Char) : ReadFault :=
  if Utf8.byteLength (rest.take 4) < 4 then .truncated else .malformed

/-- The character of an escape of two characters. -/
def escaped? : Char → Option Char
  | '"' => some '"'
  | '\\' => some '\\'
  | '/' => some '/'
  | 'b' => some '\x08'
  | 'f' => some '\x0c'
  | 'n' => some '\n'
  | 'r' => some '\r'
  | 't' => some '\t'
  | _ => none

/-- The fault of what follows the first half of a pair of escapes. -/
def halfPair : List Char → ReadFault
  | [] => .truncated
  | ['\\'] => .truncated
  | '\\' :: 'u' :: rest => shortEscape rest
  | _ => .malformed

/-- The characters of a string after its opening quote, and what comes after the closing one. -/
def scanString (done : List Char) : List Char → Except ReadFault String × List Char
  | [] => (.error .truncated, [])
  | '"' :: rest => (.ok (String.ofList done.reverse), rest)
  | '\\' :: 'u' :: a :: b :: c :: d :: rest =>
    match hexCode? a b c d with
    | none => (.error (shortEscape (a :: b :: c :: d :: rest)), rest)
    | some n =>
      if n < 0xD800 ∨ 0xDFFF < n then scanString (Char.ofNat n :: done) rest
      else if 0xDC00 ≤ n then (.error .malformed, rest)
      else
        match rest with
        | '\\' :: 'u' :: e :: f :: g :: h :: rest =>
          match hexCode? e f g h with
          | none => (.error (shortEscape (e :: f :: g :: h :: rest)), rest)
          | some m =>
            if 0xDC00 ≤ m ∧ m ≤ 0xDFFF then
              let code := 0x10000 + (n - 0xD800) * 0x400 + (m - 0xDC00)
              scanString (Char.ofNat code :: done) rest
            else (.error .malformed, rest)
        | rest => (.error (halfPair rest), rest)
  | '\\' :: 'u' :: rest => (.error (shortEscape rest), rest)
  | ['\\'] => (.error .truncated, [])
  | '\\' :: c :: rest =>
    match escaped? c with
    | some e => scanString (e :: done) rest
    | none => (.error .malformed, rest)
  | c :: rest => if c.toNat < 0x20 then (.error .malformed, rest) else scanString (c :: done) rest
termination_by cs => cs.length

/-! ## Tokens -/

namespace Token

/-- The token that starts with a character, and the rest. -/
def scanOne (c : Char) (rest : List Char) : Token × List Char :=
  match c with
  | '[' => (.openArray, rest)
  | ']' => (.closeArray, rest)
  | '\x7b' => (.openObject, rest)
  | '\x7d' => (.closeObject, rest)
  | ',' => (.comma, rest)
  | ':' => (.colon, rest)
  | '"' => let (s, rest) := scanString [] rest; (.text s, rest)
  | 'n' => let (d, rest) := scanLiteral .null "ull".toList rest; (.scalar d, rest)
  | 't' => let (d, rest) := scanLiteral (.bool true) "rue".toList rest; (.scalar d, rest)
  | 'f' => let (d, rest) := scanLiteral (.bool false) "alse".toList rest; (.scalar d, rest)
  | '-' => let (d, rest) := scanNumber true rest; (.scalar d, rest)
  | c =>
    if c.isDigit then let (d, rest) := scanNumber false (c :: rest); (.scalar d, rest)
    else (.other, rest)

/-- Whether nothing is read after this token. -/
def isLast : Token → Bool
  | .scalar (.broken _) => true
  | .text (.error _) => true
  | .other => true
  | _ => false

/-- The tokens of a text of at most so many characters. -/
def scanFrom : Nat → List Char → List Token
  | 0, _ => []
  | _, [] => []
  | fuel + 1, c :: rest =>
    if isSpace c then scanFrom fuel rest
    else
      let (token, rest) := scanOne c rest
      if token.isLast then [token] else token :: scanFrom fuel rest

/-- The tokens of a text. -/
def scan (cs : List Char) : List Token := scanFrom cs.length cs

end Token

end SdnZones.Json
