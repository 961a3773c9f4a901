/-
# Binary floating-point numbers and their shortest decimals

A finite magnitude of the double format is a significand of at most 53 bits times a power of two.
A decimal is rounded to the nearest one, a tie going to the even significand. Written back, a
magnitude has the fewest digits that round to it again, and of these the nearest.

Key definitions: `Binary64`, `Binary64.ofDecimal`, `Binary64.shortest`, `Binary64.text`.
-/
namespace StreamEditor

/-- A magnitude of the double format: `significand * 2 ^ exponent`, or one past all bounds. -/
inductive Binary64 where
  | finite (significand : Nat) (exponent : Int)
  | infinite
  deriving DecidableEq, Repr

namespace Binary64

/-- The least exponent of a significand. -/
def leastExponent : Int := -1074

/-- The greatest exponent of a significand. -/
def greatestExponent : Int := 971

/-- The quotient rounded to the nearest whole number, a tie going to the even one. -/
def roundDiv (num den : Nat) : Nat :=
  let q := num / den
  let r := num % den
  if den < 2 * r || (2 * r == den && q % 2 == 1) then q + 1 else q

/-- `base ^ e` as a fraction. -/
def power (base : Nat) (e : Int) : Nat × Nat :=
  if 0 ≤ e then (Nat.pow base e.toNat, 1) else (1, Nat.pow base (-e).toNat)

/-- The significand of a fraction at an exponent, not yet rounded: a fraction too. -/
def scaled (num den : Nat) (e : Int) : Nat × Nat :=
  let (p, q) := power 2 e
  (num * q, den * p)

/-- The exponent at which the significand of a fraction has 53 bits, or the least exponent. -/
def exponentOf (num den : Nat) : Int :=
  let e := (Nat.log2 num : Int) - Nat.log2 den - 53
  let (n, d) := scaled num den e
  max leastExponent (if n / d < Nat.pow 2 53 then e else e + 1)

/-- The magnitude nearest to a fraction. -/
def ofFraction (num den : Nat) : Binary64 :=
  if num == 0 then .finite 0 leastExponent
  else
    let e := exponentOf num den
    let (n, d) := scaled num den e
    let m := roundDiv n d
    let (m, e) := if m == Nat.pow 2 53 then (Nat.pow 2 52, e + 1) else (m, e)
    if greatestExponent < e then .infinite else .finite m e

/-- The number of decimal digits of a whole number. -/
def width (n : Nat) : Nat := (Nat.toDigits 10 n).length

/-- The magnitude nearest to `digits * 10 ^ exponent`. Decimals far out of bounds are told apart
by their width alone. -/
def ofDecimal (digits : Nat) (exponent : Int) : Binary64 :=
  if digits == 0 || width digits + exponent < -330 then .finite 0 leastExponent
  else if 310 < width digits + exponent then .infinite
  else
    let (p, q) := power 10 exponent
    ofFraction (digits * p) q

/-- The power of ten that a fraction reaches and the next one exceeds. -/
def decade (num den : Nat) : Int :=
  if den ≤ num then width (num / den) - 1
  else
    let k : Int := width (den / num)
    let (p, _) := power 10 k
    if den ≤ num * (p / 10) then -(k - 1) else -k

/-- Whether the decimal `digits * 10 ^ exponent` rounds to a magnitude. -/
def readsBack (m : Nat) (e : Int) (digits : Nat) (exponent : Int) : Bool :=
  ofDecimal digits exponent == .finite m e

/-- The shortest decimal of a magnitude that is not zero, with at least `n` digits: its digits and
their exponent. Of two decimals as short the nearer is taken, of two as near the greater. -/
def shortestFrom (m : Nat) (e : Int) (num den : Nat) : Nat → Nat → Nat × Int
  | 0, n =>
    let k := decade num den - n + 1
    let (p, q) := power 10 k
    (roundDiv (num * q) (den * p), k)
  | fuel + 1, n =>
    let k := decade num den - n + 1
    let (p, q) := power 10 k
    let low := num * q / (den * p)
    let rest := num * q % (den * p)
    match readsBack m e low k, readsBack m e (low + 1) k with
    | true, true => if den * p ≤ 2 * rest then (low + 1, k) else (low, k)
    | true, false => (low, k)
    | false, true => (low + 1, k)
    | false, false => shortestFrom m e num den fuel (n + 1)

/-- The shortest decimal of a magnitude `m * 2 ^ e`; seventeen digits are always enough. -/
def shortest (m : Nat) (e : Int) : Nat × Int :=
  if m == 0 then (0, 0)
  else
    let (p, q) := power 2 e
    shortestFrom m e (m * p) q 17 1

/-- A decimal in positional notation, with a point and at least one digit behind it. -/
def positional (digits : Nat) (exponent : Int) : String :=
  let ds := Nat.toDigits 10 digits
  if 0 ≤ exponent then String.ofList (ds ++ List.replicate exponent.toNat '0' ++ ['.', '0'])
  else
    let places := (-exponent).toNat
    let ds := List.replicate (places + 1 - ds.length) '0' ++ ds
    String.ofList (ds.take (ds.length - places) ++ '.' :: ds.drop (ds.length - places))

/-- A magnitude in words, positional and with a point. -/
def text : Binary64 → String
  | finite m e =>
    let (digits, exponent) := shortest m e
    positional digits exponent
  | infinite => "inf"

end Binary64
end StreamEditor
