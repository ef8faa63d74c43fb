/-
Natural and binary logarithms. They are computed in fixed point with 192 bits after the point and
then rounded to the nearest floating-point number, so the error before rounding is far below the
last bit of the result. Only positive numbers have logarithms.
-/
import CodeReview.Fault
import CodeReview.Number.Double

namespace CodeReview.Double

/-- Bits after the point. -/
def fixedBits : Nat := 192

/-- The sum of `z ^ (2k+1) / (2k+1)` over `k`, in fixed point, for a `z` of at most one third;
`power` is the current power of `z` and `odd` its exponent. -/
def inverseTanhSum (square : Nat) : Nat → Nat → Nat → Nat
  | 0, _, _ => 0
  | fuel + 1, power, odd =>
    power / odd + inverseTanhSum square fuel (power * square / twoTo fixedBits) (odd + 2)

/-- The logarithm of `num / den` in fixed point, for `1 ≤ num / den ≤ 2`: twice the inverse hyperbolic
tangent of `(num - den) / (num + den)`. -/
def logNearOne (num den : Nat) : Nat :=
  let z := (num - den) * twoTo fixedBits / (num + den)
  2 * inverseTanhSum (z * z / twoTo fixedBits) 64 z 1

/-- The logarithm of two in fixed point. -/
def logOfTwo : Nat := logNearOne 2 1

/-- A positive magnitude as `2 ^ k` times a fraction between one and two. -/
def binaryScale (magnitude : Rat) : Int × Nat × Nat :=
  let num := magnitude.num.natAbs
  let den := magnitude.den
  let guess : Int := (num.log2 : Int) - (den.log2 : Int)
  let k := if num * twoTo (-guess).toNat < den * twoTo guess.toNat then guess - 1 else guess
  (k, num * twoTo (-k).toNat, den * twoTo k.toNat)

/-- The natural logarithm of a positive magnitude, rounded. -/
def logOf (magnitude : Rat) : Double :=
  let (k, num, den) := binaryScale magnitude
  round (mkRat (k * logOfTwo + logNearOne num den) (twoTo fixedBits))

/-- The binary logarithm of a positive magnitude, rounded. -/
def log2Of (magnitude : Rat) : Double :=
  let (k, num, den) := binaryScale magnitude
  round (k + mkRat (logNearOne num den) logOfTwo)

/-- The logarithm of a number that has none. -/
def outsideDomain : Fault := .invalid "math domain error"

/-- The natural logarithm of a number. -/
def log : Double → Except Fault Double
  | .finite value => if 0 < value then .ok (logOf value) else .error outsideDomain
  | .negZero | .infinity true => .error outsideDomain
  | .infinity false => .ok (.infinity false)
  | .nan => .ok .nan

/-- The natural logarithm of an integer of any size. -/
def logOfInt (i : Int) : Except Fault Double :=
  if 0 < i then .ok (logOf i) else .error outsideDomain

/-- The binary logarithm of an integer of any size. -/
def log2OfInt (i : Int) : Except Fault Double :=
  if 0 < i then .ok (log2Of i) else .error outsideDomain

end CodeReview.Double
