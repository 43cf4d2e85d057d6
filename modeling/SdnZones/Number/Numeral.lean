-- SUMMARY: Reading decimal numerals with a point and an exponent as doubles.
import SdnZones.Number.Binary64
import SdnZones.Text.Numeral

/-!
# Decimal numerals

A decimal numeral has digits before or after a point, or both, and may have an
exponent. It is read as the double nearest to it.
-/

namespace SdnZones.Binary64

/-- The exponent at the end of a numeral; nothing if something else stands there. -/
def exponent? : List Char → Option Int
  | [] => some 0
  | c :: rest =>
    if c = 'e' ∨ c = 'E' then Numeral.int? 10 rest else none

/-- An unsigned decimal numeral. -/
def ofUnsigned? (negative : Bool) (cs : List Char) : Option Binary64 :=
  let (whole, rest) := cs.span Char.isDigit
  let (fraction, rest) :=
    match rest with
    | '.' :: rest => rest.span Char.isDigit
    | rest => ([], rest)
  if whole.isEmpty && fraction.isEmpty then none
  else
    match exponent? rest, Numeral.digitsFrom? 10 0 (whole ++ fraction) with
    | some e, some n => some (.ofDecimal negative n (e - fraction.length))
    | _, _ => none

/-- A decimal numeral with at most one sign. -/
def ofNumeral? : List Char → Option Binary64
  | '-' :: rest => ofUnsigned? true rest
  | '+' :: rest => ofUnsigned? false rest
  | cs => ofUnsigned? false cs

/-- The words for infinity and for no number, in any case and with at most one sign. -/
def ofWord? (cs : List Char) : Option Binary64 :=
  let (negative, word) :=
    match cs with
    | '-' :: rest => (true, rest)
    | '+' :: rest => (false, rest)
    | cs => (false, cs)
  match String.ofList (word.map Char.toLower) with
  | "inf" => some (.infinite negative)
  | "infinity" => some (.infinite negative)
  | "nan" => some .nan
  | _ => none

/-- A decimal numeral, or a word for infinity or for no number. -/
def ofText? (s : String) : Option Binary64 :=
  match ofNumeral? s.toList with
  | some x => some x
  | none => ofWord? s.toList

end SdnZones.Binary64
