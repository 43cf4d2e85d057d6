-- SUMMARY: Double-precision numbers as exact values, with correct rounding of ratios and decimals.
import SdnZones.Number.Power

/-!
# Double-precision numbers

A finite number is a mantissa times a power of two. `ofRatio` rounds any ratio of
naturals to the nearest number, a tie to the even mantissa; all arithmetic goes
through it. Finite numbers built by this module are canonical: the mantissa is below
2^53, the exponent at least -1074, and a mantissa below 2^52 has exponent -1074.
-/

namespace SdnZones

/-- A double-precision number. -/
inductive Binary64 where
  /-- The number with this sign, this mantissa and this power of two. -/
  | finite (negative : Bool) (mantissa : Nat) (exponent : Int)
  | infinite (negative : Bool)
  | nan
deriving DecidableEq

namespace Binary64

/-- Zero of either sign. -/
def zero (negative : Bool) : Binary64 := .finite negative 0 (-1074)

/-- Whether a number is finite. -/
def isFinite : Binary64 → Bool
  | .finite .. => true
  | _ => false

/-- Whether a number is zero. -/
def isZero : Binary64 → Bool
  | .finite _ m _ => m == 0
  | _ => false

/-- `num / den` rounded to an integer, a tie to the even one. -/
def roundHalfEven (num den : Nat) : Nat :=
  let q := num / den
  let r := num % den
  if 2 * r < den then q
  else if 2 * r > den then q + 1
  else if q % 2 = 0 then q else q + 1

/-- `a · 2^e` as a ratio of naturals, over the denominator `b`. -/
def scaleByTwo (a b : Nat) (e : Int) : Nat × Nat :=
  if 0 ≤ e then (a * twoTo e.toNat, b) else (a, b * twoTo (-e).toNat)

/-- The number nearest to `num / den`; `den` is not zero. -/
def ofRatio (negative : Bool) (num den : Nat) : Binary64 :=
  if num = 0 then zero negative
  else
    let guess : Int := (Nat.log2 num : Int) - (Nat.log2 den : Int) - 52
    let (n, d) := scaleByTwo num den (-guess)
    let low := if n / d < twoTo 52 then guess - 1 else guess
    let exponent := if low < -1074 then -1074 else low
    let (n, d) := scaleByTwo num den (-exponent)
    let mantissa := roundHalfEven n d
    let (mantissa, exponent) :=
      if mantissa = twoTo 53 then (twoTo 52, exponent + 1) else (mantissa, exponent)
    if 971 < exponent then .infinite negative else .finite negative mantissa exponent

/-- The number nearest to `digits · 10^scale`. -/
def ofDecimal (negative : Bool) (digits : Nat) (scale : Int) : Binary64 :=
  if digits = 0 then zero negative
  else
    let size : Int := (Nat.toDigits 10 digits).length + scale
    if 400 < size then .infinite negative
    else if size < -400 then zero negative
    else if 0 ≤ scale then ofRatio negative (digits * tenTo scale.toNat) 1
    else ofRatio negative digits (tenTo (-scale).toNat)

/-- The number nearest to an integer. -/
def ofInt (i : Int) : Binary64 := ofRatio (i < 0) i.natAbs 1

/-- The magnitude as a ratio of naturals; infinity and NaN have none. -/
def ratio? : Binary64 → Option (Nat × Nat)
  | .finite _ m e => some (scaleByTwo m 1 e)
  | _ => none

/-- Product of magnitudes, rounded; the sign is that of the first factor. -/
def scaleUp (a b : Binary64) : Binary64 :=
  match a, a.ratio?, b.ratio? with
  | .finite s _ _, some (n, d), some (p, q) => ofRatio s (n * p) (d * q)
  | _, _, _ => a

/-- Quotient of magnitudes, rounded; the sign is that of the dividend. -/
def scaleDown (a b : Binary64) : Binary64 :=
  match a, a.ratio?, b.ratio? with
  | .finite s _ _, some (n, d), some (p, q) => ofRatio s (n * q) (d * p)
  | _, _, _ => a

/-- The nearest integer, a half away from zero; infinity and NaN have none. -/
def round? : Binary64 → Option Int
  | .finite s m e =>
    let (n, d) := scaleByTwo m 1 e
    let magnitude : Nat := (2 * n + d) / (2 * d)
    some (if s then -(magnitude : Int) else magnitude)
  | _ => none

end Binary64

end SdnZones
