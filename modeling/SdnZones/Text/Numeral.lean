-- SUMMARY: Reading signed and unsigned numerals in any base up to sixteen.
import SdnZones.Text.Percent

/-!
# Numerals

A numeral is one or more digits of a base; a signed numeral has at most one sign
before them. Nothing else is let through, so a reader of numerals never skips or
wraps.
-/

namespace SdnZones.Numeral

/-- The value of a digit of the given base. -/
def digit? (base : Nat) (c : Char) : Option Nat :=
  match Percent.hexValue? c with
  | some n => if n < base then some n else none
  | none => none

/-- The value of a run of digits after `acc`. -/
def digitsFrom? (base : Nat) (acc : Nat) : List Char → Option Nat
  | [] => some acc
  | c :: rest =>
    match digit? base c with
    | some n => digitsFrom? base (acc * base + n) rest
    | none => none

/-- The value of one or more digits. -/
def nat? (base : Nat) (cs : List Char) : Option Nat :=
  if cs.isEmpty then none else digitsFrom? base 0 cs

/-- The value of digits with at most one sign before them. -/
def int? (base : Nat) : List Char → Option Int
  | '+' :: rest => (nat? base rest).map Int.ofNat
  | '-' :: rest => (nat? base rest).map fun n => -Int.ofNat n
  | cs => (nat? base cs).map Int.ofNat

/-- The character whose code hexadecimal digits give, if there is one. -/
def charOfHex? (digits : List Char) : Option Char :=
  match nat? 16 digits with
  | some n => if n < 0xD800 ∨ (0xDFFF < n ∧ n ≤ 0x10FFFF) then some (Char.ofNat n) else none
  | none => none

/-- The decimal digits of a number. -/
def decimal (n : Nat) : List Char := Nat.toDigits 10 n

/-- The decimal text of an integer. -/
def text (i : Int) : String := i.repr

/-- Whether an integer is one of the 32-bit words with sign. -/
def fitsInt32 (i : Int) : Bool := -2147483648 ≤ i && i ≤ 2147483647

/-- An integer as a 32-bit word with sign, if it is one. -/
def toInt32? (i : Int) : Option Int32 := if fitsInt32 i then some (Int32.ofInt i) else none

/-- Whether an integer is one of the 64-bit words with sign. -/
def fitsInt64 (i : Int) : Bool := -9223372036854775808 ≤ i && i ≤ 9223372036854775807

/-- Whether an integer is one of the 64-bit words without sign. -/
def fitsUInt64 (i : Int) : Bool := 0 ≤ i && i ≤ 18446744073709551615

/-- An integer as a 64-bit word without sign, if it is one. -/
def toUInt64? (i : Int) : Option UInt64 :=
  if fitsUInt64 i then some (UInt64.ofNat i.toNat) else none

end SdnZones.Numeral
