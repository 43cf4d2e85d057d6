-- SUMMARY: TOML values that are words: numbers, truth values, dates and times.
import SdnZones.Number.Numeral
import SdnZones.Toml.Value

/-!
# Words in TOML

A value without quotes and brackets is a word, as long as letters, digits and the marks
of numbers go on. `Value.ofWord?` reads a whole word or nothing of it. A time may stand
behind its date after a space; both together are then one word.
-/

namespace SdnZones.Toml

/-- A character of a word. -/
def isWordChar (c : Char) : Bool :=
  c.isAlphanum || c == '_' || c == '+' || c == '-' || c == '.' || c == ':'

/-! ## Numbers -/

/-- Digits without the underscores, each of which stands between two digits. -/
def plainDigits? (isDigit : Char → Bool) : List Char → Option (List Char)
  | [] => none
  | [c] => if isDigit c then some [c] else none
  | c :: '_' :: rest => if isDigit c then (plainDigits? isDigit rest).map (c :: ·) else none
  | c :: rest => if isDigit c then (plainDigits? isDigit rest).map (c :: ·) else none

/-- Digits of a base below sixteen or of sixteen. -/
def isDigitOf (base : Nat) (c : Char) : Bool := (Numeral.digit? base c).isSome

/-- The number of digits in a base, if a 64-bit word with sign holds it. -/
def based? (base : Nat) (cs : List Char) : Option Value :=
  match (plainDigits? (isDigitOf base) cs).bind (Numeral.nat? base) with
  | some n => if Numeral.fitsInt64 n then some (.int n) else none
  | none => none

/-- At most one sign, and what follows it. -/
def splitSign : List Char → Bool × List Char
  | '-' :: rest => (true, rest)
  | '+' :: rest => (false, rest)
  | cs => (false, cs)

/-- Decimal digits that do not start with a needless zero. -/
def wholeDigits? (cs : List Char) : Option (List Char) :=
  match plainDigits? Char.isDigit cs with
  | some ('0' :: _ :: _) => none
  | digits => digits

/-- The fraction behind a point, and what follows it; without a point it is empty. -/
def fraction? : List Char → Option (List Char × List Char)
  | '.' :: rest =>
    let (digits, rest) := rest.span fun c => c.isDigit || c == '_'
    (plainDigits? Char.isDigit digits).map fun digits => (digits, rest)
  | rest => some ([], rest)

/-- The exponent at the end; without one it is zero. -/
def exponent? : List Char → Option Int
  | [] => some 0
  | c :: rest =>
    if c = 'e' ∨ c = 'E' then
      let (negative, digits) := splitSign rest
      match (plainDigits? Char.isDigit digits).bind (Numeral.nat? 10) with
      | some n => some (if negative then -(n : Int) else n)
      | none => none
    else none

/-- A decimal number: an integer unless a fraction or an exponent follows. -/
def decimal? (cs : List Char) : Option Value :=
  let (negative, cs) := splitSign cs
  let (whole, rest) := cs.span fun c => c.isDigit || c == '_'
  match wholeDigits? whole with
  | none => none
  | some whole =>
    if rest.isEmpty then
      match Numeral.nat? 10 whole with
      | some n =>
        let i : Int := if negative then -(n : Int) else n
        if Numeral.fitsInt64 i then some (.int i) else none
      | none => none
    else
      match fraction? rest with
      | none => none
      | some (fraction, rest) =>
        match exponent? rest, Numeral.digitsFrom? 10 0 (whole ++ fraction) with
        | some e, some n =>
          let x := Binary64.ofDecimal negative n (e - fraction.length)
          if x = .infinite false then none else some (.float x)
        | _, _ => none

/-! ## Dates and times -/

/-- Read a number of exactly `count` digits between two bounds. -/
def field? (count low high : Nat) (cs : List Char) : Option (Nat × List Char) :=
  let digits := cs.take count
  if digits.length = count ∧ digits.all Char.isDigit then
    match Numeral.nat? 10 digits with
    | some n => if low ≤ n ∧ n ≤ high then some (n, cs.drop count) else none
    | none => none
  else none

/-- What follows a mark. -/
def behind? (mark : Char) : List Char → Option (List Char)
  | [] => none
  | c :: rest => if c = mark then some rest else none

/-- Whether a year has a leap day. -/
def isLeap (year : Nat) : Bool := year % 4 == 0 && (year % 100 != 0 || year % 400 == 0)

/-- The days of a month. -/
def daysIn (year month : Nat) : Nat :=
  if month = 2 then (if isLeap year then 29 else 28)
  else if month = 4 ∨ month = 6 ∨ month = 9 ∨ month = 11 then 30
  else 31

/-- A number in two digits or more. -/
def twoDigits (n : Nat) : String := if n < 10 then "0" ++ n.repr else n.repr

/-- A date at the start: its spelling, and what follows it. -/
def date? (cs : List Char) : Option (String × List Char) := do
  let (year, rest) ← field? 4 0 9999 cs
  let rest ← behind? '-' rest
  let (month, rest) ← field? 2 1 12 rest
  let rest ← behind? '-' rest
  let (day, rest) ← field? 2 1 (daysIn year month) rest
  some (String.ofList (cs.take 4) ++ "-" ++ twoDigits month ++ "-" ++ twoDigits day, rest)

/-- The fraction of a second: its spelling with at most nine digits, and what follows it. -/
def secondFraction? : List Char → Option (String × List Char)
  | '.' :: rest =>
    let (digits, rest) := rest.span Char.isDigit
    if digits.isEmpty then none
    else
      let kept := ((digits.take 9).reverse.dropWhile (· == '0')).reverse
      some (if kept.isEmpty then "" else "." ++ String.ofList kept, rest)
  | rest => some ("", rest)

/-- A time of day at the start: its spelling, and what follows it. -/
def time? (cs : List Char) : Option (String × List Char) := do
  let (hour, rest) ← field? 2 0 23 cs
  let rest ← behind? ':' rest
  let (minute, rest) ← field? 2 0 59 rest
  let rest ← behind? ':' rest
  let (second, rest) ← field? 2 0 60 rest
  let (fraction, rest) ← secondFraction? rest
  some (twoDigits hour ++ ":" ++ twoDigits minute ++ ":" ++ twoDigits second ++ fraction, rest)

/-- The spelling of an offset from universal time that ends the word. -/
def offset? : List Char → Option String
  | [] => some ""
  | ['Z'] => some "Z"
  | ['z'] => some "Z"
  | sign :: rest =>
    if sign = '+' ∨ sign = '-' then do
      let (hour, rest) ← field? 2 0 23 rest
      let rest ← behind? ':' rest
      let (minute, rest) ← field? 2 0 59 rest
      if rest.isEmpty then
        let sign := if hour = 0 ∧ minute = 0 then '+' else sign
        some (String.singleton sign ++ twoDigits hour ++ ":" ++ twoDigits minute)
      else none
    else none

/-- A word that is a date, a time, or a date and a time with or without an offset. -/
def moment? (cs : List Char) : Option String :=
  match date? cs with
  | some (date, []) => some date
  | some (date, mark :: rest) =>
    if mark = 'T' ∨ mark = 't' ∨ mark = ' ' then do
      let (time, rest) ← time? rest
      let offset ← offset? rest
      some (date ++ "T" ++ time ++ offset)
    else none
  | none =>
    match time? cs with
    | some (time, []) => some time
    | _ => none

/-- Whether a word is a date and nothing else. -/
def isDate (cs : List Char) : Bool :=
  match date? cs with
  | some (_, []) => true
  | _ => false

/-! ## Words -/

/-- The value of infinity and of no number, with or without a sign. -/
def special? (cs : List Char) : Option Value :=
  let (negative, word) := splitSign cs
  if word = "inf".toList then some (.float (.infinite negative))
  else if word = "nan".toList then some (.float .nan)
  else none

/-- The value of a word. -/
def Value.ofWord? (cs : List Char) : Option Value :=
  if cs = "true".toList then some (.bool true)
  else if cs = "false".toList then some (.bool false)
  else
    match special? cs, moment? cs with
    | some v, _ => some v
    | none, some s => some (.moment s)
    | none, none =>
      match cs with
      | '0' :: 'x' :: digits => based? 16 digits
      | '0' :: 'o' :: digits => based? 8 digits
      | '0' :: 'b' :: digits => based? 2 digits
      | cs => decimal? cs

/-- The word at the start of a text, and what follows it. -/
def takeWord (cs : List Char) : List Char × List Char :=
  let (word, rest) := cs.span isWordChar
  match rest with
  | ' ' :: more =>
    let (time, after) := more.span isWordChar
    if isDate word && !time.isEmpty then (word ++ ' ' :: time, after) else (word, rest)
  | rest => (word, rest)

end SdnZones.Toml
