-- SUMMARY: Percent-encoding of text and its inverse.
import SdnZones.Text.Utf8

/-!
# Percent-encoding

Every byte of the UTF-8 form that is not an unreserved ASCII character becomes `%`
and two hexadecimal digits in upper case.
-/

namespace SdnZones.Percent

/-- The digit of a value below sixteen, in upper case. -/
def hexDigit (n : Nat) : Char :=
  if n < 10 then Char.ofNat (0x30 + n) else Char.ofNat (0x41 + (n - 10))

/-- The value of a hexadecimal digit in either case. -/
def hexValue? (c : Char) : Option Nat :=
  let n := c.toNat
  if 0x30 ≤ n ∧ n ≤ 0x39 then some (n - 0x30)
  else if 0x41 ≤ n ∧ n ≤ 0x46 then some (n - 0x41 + 10)
  else if 0x61 ≤ n ∧ n ≤ 0x66 then some (n - 0x61 + 10)
  else none

/-- Letters, digits and `-_.~`. -/
def isUnreserved (c : Char) : Bool :=
  c.isAlphanum || c == '-' || c == '_' || c == '.' || c == '~'

/-- The escape of a byte. -/
def escape (b : UInt8) : List Char := ['%', hexDigit (b.toNat / 16), hexDigit (b.toNat % 16)]

/-- Encode all characters but those that `keep` lets through. -/
def encodeExcept (keep : Char → Bool) (cs : List Char) : List Char :=
  cs.flatMap fun c => if keep c then [c] else (String.utf8EncodeChar c).flatMap escape

/-- The percent-encoded form of a text as a component of a path or query. -/
def encode (s : String) : String := String.ofList (encodeExcept isUnreserved s.toList)

/-- The bytes that a percent-encoded text stands for; a `%` without two digits stands for itself. -/
def decodeBytes : List Char → List UInt8
  | [] => []
  | '%' :: a :: b :: rest =>
    match hexValue? a, hexValue? b with
    | some hi, some lo => UInt8.ofNat (hi * 16 + lo) :: decodeBytes rest
    | _, _ => String.utf8EncodeChar '%' ++ decodeBytes (a :: b :: rest)
  | c :: rest => String.utf8EncodeChar c ++ decodeBytes rest
termination_by cs => cs.length

/-- The text that a percent-encoded text stands for, if its bytes are text. -/
def decode? (s : String) : Option String := Utf8.decode? (decodeBytes s.toList)

end SdnZones.Percent
