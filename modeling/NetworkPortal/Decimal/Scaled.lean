import NetworkPortal.Decimal.Binary64
import NetworkPortal.Text.Basic

/-! # Decimals by scaling

The leading digits of a decimal that fit a word of 64 bits are rounded to a number, which is then
multiplied or divided by a power of ten and rounded again. The result is at times a neighbour of
the number nearest to the decimal.
-/
namespace NetworkPortal.Decimal

/-- Appends digits to a word while it stays below `2 ^ 64`; with it, the digits left over. -/
def appendDigits (word : Nat) : List Char → Nat × List Char
  | [] => (word, [])
  | digit :: rest =>
    let next := 10 * word + Text.digitValue digit
    if next < Nat.pow 2 64 then appendDigits next rest else (word, digit :: rest)

def greatestPower : Nat := 308

namespace Binary64

def mulTenPow? (x : Binary64) (power : Nat) : Option Binary64 :=
  (ofRatio? false (Nat.pow 10 power) 1).bind x.mul?

def divTenPow? (x : Binary64) (power : Nat) : Option Binary64 :=
  (ofRatio? false (Nat.pow 10 power) 1).bind x.div?

/-- `word * 10 ^ power` for a word of 64 bits; nothing if it is too large. A small power is divided
off in two steps, and of a word divided by more than that nothing is left. -/
def scaled? (negative : Bool) (word : Nat) (power : Int) : Option Binary64 :=
  (ofRatio? negative word 1).bind fun x =>
    if word = 0 then some x
    else if 0 ≤ power then
      if power ≤ greatestPower then x.mulTenPow? power.toNat else none
    else
      let divisor := (-power).toNat
      if divisor ≤ greatestPower then x.divTenPow? divisor
      else if divisor ≤ 2 * greatestPower then
        (x.divTenPow? greatestPower).bind (·.divTenPow? (divisor - greatestPower))
      else some (zero negative)

end Binary64

/-- The number for digits before and after the point, times a power of ten. Digits that no longer
fit before the point count as zeros, those after it not at all. -/
def ofPositional? (negative : Bool) (whole fraction : List Char) (power : Int) :
    Option Binary64 :=
  let (high, zeros) := appendDigits 0 whole
  let (word, dropped) := appendDigits high fraction
  Binary64.scaled? negative word
    (power + zeros.length - (fraction.length - dropped.length : Nat))

end NetworkPortal.Decimal
