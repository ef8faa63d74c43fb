/-
Binary floating-point numbers of 53 significant bits. A finite number is the rational it stands for;
zero has a second, negative form, and beyond the largest numbers lie the infinities. Every operation
is the exact one followed by `Double.round`, which takes the nearest number and, of two equally
near, the one with the even last bit.
-/
import CodeReview.Number.Power

namespace CodeReview

/-- A floating-point number. -/
inductive Double where
  /-- A finite number; `0` is the positive zero. -/
  | finite (value : Rat)
  | negZero
  | infinity (negative : Bool)
  | nan
  deriving DecidableEq, Repr

namespace Double

/-! ## Rounding -/

/-- The quotient rounded to the nearest integer, a half to the even one. -/
def divideToEven (num den : Nat) : Nat :=
  let q := num / den
  let twice := 2 * (num % den)
  if twice < den then q
  else if den < twice then q + 1
  else if q % 2 = 0 then q else q + 1

/-- `num / den` in units of `2 ^ exponent`, rounded to the nearest integer. -/
def significand (num den : Nat) (exponent : Int) : Nat :=
  divideToEven (num * twoTo (-exponent).toNat) (den * twoTo exponent.toNat)

/-- The exponent at which `num / den` has 53 digits before the point, or the smallest exponent there
is. -/
def exponentFor (num den : Nat) : Int :=
  let guess : Int := (num.log2 : Int) - (den.log2 : Int) - 52
  let small := num * twoTo (-guess).toNat < den * twoTo guess.toNat * twoTo 52
  max (if small then guess - 1 else guess) (-1074)

/-- `2 ^ exponent`. -/
def powerOfTwo (exponent : Int) : Rat :=
  if 0 ≤ exponent then (twoTo exponent.toNat : Rat) else mkRat 1 (twoTo (-exponent).toNat)

/-- The nearest number to a magnitude that is not zero; `none` where it is beyond the largest. -/
def roundMagnitude (magnitude : Rat) : Option Rat :=
  let num := magnitude.num.natAbs
  let exponent := exponentFor num magnitude.den
  let rounded := ((significand num magnitude.den exponent : Nat) : Rat) * powerOfTwo exponent
  if powerOfTwo 1024 ≤ rounded then none else some rounded

/-- The nearest number to a rational. A magnitude too small for any number keeps its sign. -/
def round (value : Rat) : Double :=
  if value = 0 then .finite 0
  else match roundMagnitude (if value < 0 then -value else value) with
    | none => .infinity (value < 0)
    | some magnitude =>
      if magnitude = 0 then if value < 0 then .negZero else .finite 0
      else .finite (if value < 0 then -magnitude else magnitude)

/-- The nearest number to an integer. -/
def ofInt (i : Int) : Double := round i

/-- The number whose decimal digits are `digits`, the last of them standing for `10 ^ exponent`. -/
def ofDecimal (digits : Nat) (exponent : Int) : Double :=
  if 0 ≤ exponent then round ((digits * tenTo exponent.toNat : Nat) : Rat)
  else round (mkRat digits (tenTo (-exponent).toNat))

/-! ## Signs and order -/

/-- The rational that a number stands for, if it is finite. -/
def toRat? : Double → Option Rat
  | .finite value => some value
  | .negZero => some 0
  | .infinity _ | .nan => none

/-- The number carries a minus sign. -/
def isNegative : Double → Bool
  | .finite value => value < 0
  | .negZero => true
  | .infinity negative => negative
  | .nan => false

def neg : Double → Double
  | .finite value => if value = 0 then .negZero else .finite (-value)
  | .negZero => .finite 0
  | .infinity negative => .infinity !negative
  | .nan => .nan

/-- The zero with the given sign. -/
def zero (negative : Bool) : Double := if negative then .negZero else .finite 0

/-- The two are ordered and the first is smaller. -/
def lt : Double → Double → Bool
  | .nan, _ | _, .nan => false
  | .infinity m, .infinity n => m && !n
  | .infinity m, _ => m
  | _, .infinity n => !n
  | x, y => match x.toRat?, y.toRat? with
    | some p, some q => p < q
    | _, _ => false

/-- The two stand for the same value; the zeros agree and `nan` differs from itself. -/
def same : Double → Double → Bool
  | .nan, _ | _, .nan => false
  | .infinity m, .infinity n => m == n
  | x, y => match x.toRat?, y.toRat? with
    | some p, some q => p == q
    | _, _ => false

def le (x y : Double) : Bool := lt x y || same x y

/-! ## Arithmetic -/

def add : Double → Double → Double
  | .nan, _ | _, .nan => .nan
  | .infinity m, .infinity n => if m = n then .infinity m else .nan
  | .infinity m, _ => .infinity m
  | _, .infinity n => .infinity n
  | .negZero, .negZero => .negZero
  | .finite p, .finite q => round (p + q)
  | .finite p, .negZero => .finite p
  | .negZero, .finite q => .finite q

def sub (x y : Double) : Double := add x (neg y)

def mul (x y : Double) : Double :=
  let negative := x.isNegative != y.isNegative
  match x, y with
  | .nan, _ | _, .nan => .nan
  | .infinity _, y => if y.same (.finite 0) then .nan else .infinity negative
  | x, .infinity _ => if x.same (.finite 0) then .nan else .infinity negative
  | x, y => match x.toRat?, y.toRat? with
    | some p, some q => if p = 0 || q = 0 then zero negative else round (p * q)
    | _, _ => .nan

/-- The quotient by a number that is not zero. -/
def div (x y : Double) : Double :=
  let negative := x.isNegative != y.isNegative
  match x, y with
  | .nan, _ | _, .nan => .nan
  | .infinity _, .infinity _ => .nan
  | .infinity _, _ => .infinity negative
  | _, .infinity _ => zero negative
  | x, y => match x.toRat?, y.toRat? with
    | some p, some q => if p = 0 then zero negative else round (p / q)
    | _, _ => .nan

/-- The integer part and what is left of it, both toward zero. -/
def split (value : Rat) : Int × Rat :=
  let whole := Int.tdiv value.num value.den
  (whole, value - whole)

end Double

end CodeReview
