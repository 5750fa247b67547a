import NetworkPortal.Decimal.Binary64

/-! # Shortest decimals

The decimals that round to a given binary64 number fill an interval about it. Among them the one
with the fewest digits is chosen, and of several the nearest to the number.
-/
namespace NetworkPortal.Decimal

/-- The decimal `digits * 10 ^ power`. -/
structure Digits where
  digits : Nat
  power : Int

namespace Binary64

/-- The interval that rounds to a number, in quarters of its last binary place: lower end, number,
upper end. The lower end is nearer below a power of two. -/
def quarters (x : Binary64) : Nat × Nat × Nat :=
  let m := 4 * x.significand
  let below := if x.significand = Nat.pow 2 52 ∧ leastExponent < x.exponent then 1 else 2
  (m - below, m, m + 2)

/-- The point of the grid of step `10 ^ power` that stands for the number, if one of the two next
to the number is in the interval. -/
def onGrid? (x : Binary64) (power : Int) : Option Nat :=
  let (low, mid, high) := x.quarters
  -- all compared as `quarters * 2 ^ (exponent - 2)` against `point * 10 ^ power`
  let two := scale 2 (-(x.exponent - 2)) 1 1
  let ten := scale 10 (-power) 1 1
  let unit := two.1 * ten.2
  let step := ten.1 * two.2
  let inside := fun point : Nat =>
    if x.significand % 2 = 0 then low * unit ≤ point * step && point * step ≤ high * unit
    else low * unit < point * step && point * step < high * unit
  let floor := mid * unit / step
  let left := mid * unit - floor * step
  let right := (floor + 1) * step - mid * unit
  match decide (0 < floor) && inside floor, inside (floor + 1) with
  | true, true =>
    if left < right || (left == right && floor % 2 == 0) then some floor else some (floor + 1)
  | true, false => some floor
  | false, true => some (floor + 1)
  | false, false => none

/-- The least `k` with the number below `10 ^ k`, given that it is at most `k + fuel`. -/
def magnitude (x : Binary64) : Nat → Int → Int
  | 0, k => k
  | fuel + 1, k =>
    let ten := scale 10 (-k) 1 1
    if x.ratio.1 * ten.2 < ten.1 * x.ratio.2 then k else magnitude x fuel (k + 1)

/-- Tries grids of one, two, … digits below `10 ^ k`. -/
def firstGrid (x : Binary64) (k : Int) : Nat → Int → Digits
  | 0, n => ⟨x.significand, k - n⟩
  | fuel + 1, n =>
    match x.onGrid? (k - n) with
    | some digits => ⟨digits, k - n⟩
    | none => firstGrid x k fuel (n + 1)

def stripZeros : Nat → Digits → Digits
  | 0, d => d
  | fuel + 1, d =>
    if d.digits ≠ 0 ∧ d.digits % 10 = 0 then stripZeros fuel ⟨d.digits / 10, d.power + 1⟩ else d

/-- The shortest decimal that rounds to a number, seventeen digits at most. -/
def shortest (x : Binary64) : Digits :=
  if x.significand = 0 then ⟨0, 0⟩
  else
    -- a lower bound: each binary digit is worth more than 3/10 of a decimal one
    let start : Int := ((Nat.log2 x.significand : Int) + x.exponent) * 3 / 10 - 25
    stripZeros 17 (firstGrid x (x.magnitude 80 start) 17 1)

end Binary64

end NetworkPortal.Decimal
