-- SUMMARY: The shortest decimal that reads back as a given double, and its written forms.
import SdnZones.Number.Binary64

/-!
# Shortest decimals

`shortest` finds the fewest decimal digits that read back as a number, and of those
the nearest. The written forms decide only where the point or an exponent goes.
-/

namespace SdnZones.Binary64

/-- A positive decimal `0.d₁d₂… · 10^point`. -/
structure Decimal where
  digits : List Char
  point : Int
deriving DecidableEq

/-- The decimal of a natural `n · 10^scale`, without trailing zeros. -/
def Decimal.ofNat (n : Nat) (scale : Int) : Decimal :=
  let all := Nat.toDigits 10 n
  ⟨(all.reverse.dropWhile (· == '0')).reverse, (all.length : Int) + scale⟩

/-- The largest `k` with `10^k ≤ n / d`, for a ratio within the range of doubles. -/
def log10Floor (n d : Nat) : Int :=
  ((Nat.toDigits 10 (n * tenTo 400 / d)).length : Int) - 401

/-- Whether `c · 10^k` reads back as a number of the given interval, in units of `u / w`. -/
def readsBack (low high u w : Nat) (closed : Bool) (c : Nat) (k : Int) : Bool :=
  let value := if 0 ≤ k then c * tenTo k.toNat * w else c * w
  let unit := if 0 ≤ k then u else u * tenTo (-k).toNat
  if closed then low * unit ≤ value && value ≤ high * unit
  else low * unit < value && value < high * unit

/-- The distance of `c · 10^k` from `mid` units, up to a factor common to one `k`. -/
def distance (mid u w c : Nat) (k : Int) : Nat :=
  let value := if 0 ≤ k then c * tenTo k.toNat * w else c * w
  let unit := if 0 ≤ k then u else u * tenTo (-k).toNat
  if value ≤ mid * unit then mid * unit - value else value - mid * unit

/-- The nearest reading of at most `count` digits, tried from few digits to many. -/
def search (low mid high u w : Nat) (closed : Bool) (top : Int) : Nat → Nat → Option Decimal
  | 0, _ => none
  | tries + 1, count =>
    let k : Int := top + 1 - count
    let base :=
      if 0 ≤ k then mid * u / (w * tenTo k.toNat) else mid * u * tenTo (-k).toNat / w
    let below := readsBack low high u w closed base k
    let above := readsBack low high u w closed (base + 1) k
    let nearBelow := distance mid u w base k ≤ distance mid u w (base + 1) k
    if below && (!above || nearBelow) then some (.ofNat base k)
    else if above then some (.ofNat (base + 1) k)
    else search low mid high u w closed top tries (count + 1)

/-- The shortest decimal of a positive finite number; zero is the digit `0`. -/
def shortest (mantissa : Nat) (exponent : Int) : Decimal :=
  if mantissa = 0 then ⟨['0'], 1⟩
  else
    let (u, w) := scaleByTwo 1 1 (exponent - 2)
    let mid := 4 * mantissa
    let gap := if mantissa = twoTo 52 ∧ -1074 < exponent then 1 else 2
    let found :=
      search (mid - gap) mid (mid + 2) u w (mantissa % 2 = 0) (log10Floor (mid * u) w) 17 1
    found.getD ⟨['0'], 1⟩

/-! ## Written forms -/

/-- Digits with the point at its place and no exponent, however long that is. -/
def Decimal.positional (d : Decimal) : List Char :=
  let size : Int := d.digits.length
  if d.point ≤ 0 then '0' :: '.' :: (List.replicate (-d.point).toNat '0' ++ d.digits)
  else if size ≤ d.point then d.digits ++ List.replicate (d.point - size).toNat '0'
  else d.digits.take d.point.toNat ++ '.' :: d.digits.drop d.point.toNat

/-- One digit before the point, and an exponent without a plus sign. -/
def Decimal.scientific (d : Decimal) : List Char :=
  let mantissa :=
    match d.digits with
    | [] => ['0']
    | [c] => [c]
    | c :: rest => c :: '.' :: rest
  mantissa ++ 'e' :: (d.point - 1).repr.toList

/-- A whole number keeps `.0`; from 10^16 on and below 10^-5 an exponent is used. -/
def Decimal.marked (d : Decimal) : List Char :=
  if (d.digits.length : Int) ≤ d.point ∧ d.point ≤ 16 then d.positional ++ ['.', '0']
  else if -5 < d.point ∧ d.point ≤ 16 then d.positional
  else d.scientific

/-- A number in a form that always shows a point or an exponent. -/
def text : Binary64 → String
  | .finite s m e => String.ofList ((if s then ['-'] else []) ++ (shortest m e).marked)
  | .infinite s => if s then "-inf" else "inf"
  | .nan => "NaN"

/-- A number without an exponent and without a point that is not needed. -/
def plainText : Binary64 → String
  | .finite s m e => String.ofList ((if s then ['-'] else []) ++ (shortest m e).positional)
  | .infinite s => if s then "-inf" else "inf"
  | .nan => "NaN"

end SdnZones.Binary64
