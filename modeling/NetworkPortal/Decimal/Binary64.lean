/-! # Finite binary64 numbers

A number is a sign, a significand and a power of two. `Binary64.nearest?` rounds an exact decimal
to the nearest of them, a tie to the even significand, and products and quotients are rounded the
same way, all in natural numbers.
-/
namespace NetworkPortal.Decimal

/-- The number `significand * 2 ^ exponent` with its sign. A significand below `2 ^ 52` comes with
the least exponent only. -/
structure Binary64 where
  negative : Bool
  significand : Nat
  exponent : Int
  deriving DecidableEq

namespace Binary64

def leastExponent : Int := -1074

def greatestExponent : Int := 971

def zero (negative : Bool) : Binary64 := ⟨negative, 0, leastExponent⟩

/-- Numerator and denominator of `num / (den * base ^ e)`. -/
def scale (base : Nat) (e : Int) (num den : Nat) : Nat × Nat :=
  if 0 ≤ e then (num, den * base.pow e.toNat) else (num * base.pow (-e).toNat, den)

/-- The quotient rounded to nearest, a tie to even. -/
def roundDiv (num den : Nat) : Nat :=
  let q := num / den
  let r := num % den
  if 2 * r > den || (2 * r == den && q % 2 == 1) then q + 1 else q

/-- The number nearest to `num / den`, the divisor being positive; nothing if it is too large. -/
def ofRatio? (negative : Bool) (num den : Nat) : Option Binary64 :=
  if num = 0 then some (zero negative) else
  let low : Int := (Nat.log2 num : Int) - (Nat.log2 den : Int) - 53
  let first := scale 2 low num den
  let fitted := if first.1 / first.2 ≥ Nat.pow 2 53 then low + 1 else low
  let e := max leastExponent fitted
  let ratio := scale 2 e num den
  let m := roundDiv ratio.1 ratio.2
  let result : Binary64 :=
    if m = Nat.pow 2 53 then ⟨negative, Nat.pow 2 52, e + 1⟩ else ⟨negative, m, e⟩
  if result.exponent > greatestExponent then none else some result

def ratio (x : Binary64) : Nat × Nat := scale 2 (-x.exponent) x.significand 1

def mul? (x y : Binary64) : Option Binary64 :=
  ofRatio? (x.negative != y.negative) (x.ratio.1 * y.ratio.1) (x.ratio.2 * y.ratio.2)

def div? (x y : Binary64) : Option Binary64 :=
  ofRatio? (x.negative != y.negative) (x.ratio.1 * y.ratio.2) (x.ratio.2 * y.ratio.1)

/-- The number nearest to `digits * 10 ^ power`; nothing if it is too large. A power that puts the
value far out of range decides without being raised. -/
def nearest? (negative : Bool) (digits : Nat) (power : Int) : Option Binary64 :=
  let places : Int := (Nat.toDigits 10 digits).length
  if digits = 0 then some (zero negative)
  else if power + places > 310 then none
  else if power + places < -330 then some (zero negative)
  else
    let ratio := scale 10 (-power) digits 1
    ofRatio? negative ratio.1 ratio.2

end Binary64

end NetworkPortal.Decimal
