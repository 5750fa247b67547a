import NetworkPortal.Decimal.Shortest

/-! # Decimal notation

A number is written positionally while its leading digit stands near the point, and with an
exponent outside that range.
-/
namespace NetworkPortal.Decimal

/-- The exponents of the leading digit that are written positionally. -/
structure Notation where
  least : Int
  greatest : Int

/-- Digits with the point after the first `whole` of them, zeros filled in on either side. -/
def positional (digits : List Char) (whole : Int) : List Char :=
  if whole ≤ 0 then '0' :: '.' :: List.replicate (-whole).toNat '0' ++ digits
  else
    let w := whole.toNat
    let fraction := digits.drop w
    digits.take w ++ List.replicate (w - digits.length) '0' ++
      '.' :: (if fraction.isEmpty then ['0'] else fraction)

def scientific (digits : List Char) (exponent : Int) : List Char :=
  let tail := digits.drop 1
  digits.take 1 ++ (if tail.isEmpty then [] else '.' :: tail) ++
    'e' :: (if exponent < 0 then '-' else '+') :: Nat.toDigits 10 exponent.natAbs

def Notation.write (style : Notation) (x : Binary64) : String :=
  let short := x.shortest
  let digits := Nat.toDigits 10 short.digits
  let exponent : Int := short.power + digits.length - 1
  let body :=
    if style.least ≤ exponent ∧ exponent ≤ style.greatest then positional digits (exponent + 1)
    else scientific digits exponent
  .ofList (if x.negative then '-' :: body else body)

end NetworkPortal.Decimal
