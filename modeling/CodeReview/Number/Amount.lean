/-
Amounts: numbers that are integers of any size or floating-point. Two integers stay exact; where one
of two is floating-point the other is turned into one, which fails for integers beyond its range.
-/
import CodeReview.Fault
import CodeReview.Number.Double

namespace CodeReview

inductive Amount where
  | int (value : Int)
  | float (value : Double)
  deriving DecidableEq, Repr

namespace Amount

/-- The nearest floating-point number to an integer in range. -/
def doubleOfInt (i : Int) : Except Fault Double :=
  match Double.ofInt i with
  | .infinity _ => .error .outOfRange
  | x => .ok x

def toDouble : Amount → Except Fault Double
  | .int i => doubleOfInt i
  | .float x => .ok x

/-- An operation on integers, or the one on floating-point numbers where one of the two is one. -/
def combine (exact : Int → Int → Int) (rounded : Double → Double → Double) :
    Amount → Amount → Except Fault Amount
  | .int i, .int j => .ok (.int (exact i j))
  | x, y => do
    let a ← x.toDouble
    let b ← y.toDouble
    return .float (rounded a b)

def add : Amount → Amount → Except Fault Amount := combine (· + ·) Double.add
def sub : Amount → Amount → Except Fault Amount := combine (· - ·) Double.sub
def mul : Amount → Amount → Except Fault Amount := combine (· * ·) Double.mul

/-- The quotient by a positive integer, rounded once. -/
def divideBy (x : Amount) (n : Nat) : Except Fault Double :=
  match x with
  | .int i =>
    match Double.round (mkRat i n) with
    | .infinity _ => .error .outOfRange
    | q => .ok q
  | .float x => .ok (x.div (.ofInt n))

/-- The first is smaller; integers are compared exactly. -/
def lt : Amount → Amount → Bool
  | .int i, .int j => i < j
  | .int i, .float y => Double.lt (.finite i) y
  | .float x, .int j => Double.lt x (.finite j)
  | .float x, .float y => Double.lt x y

/-- The two are equal; integers are compared exactly. -/
def same : Amount → Amount → Bool
  | .int i, .int j => i == j
  | .int i, .float y => Double.same (.finite i) y
  | .float x, .int j => Double.same x (.finite j)
  | .float x, .float y => Double.same x y

end Amount

/-- The greatest integer not above a floating-point number. -/
def Double.floor : Double → Except Fault Int
  | .finite value => .ok value.floor
  | .negZero => .ok 0
  | .infinity _ => .error .outOfRange
  | .nan => .error (.invalid "cannot convert float NaN to integer")

/-- The integer part of a floating-point number, toward zero. -/
def Double.truncate : Double → Except Fault Int
  | .finite value => .ok (Double.split value).1
  | .negZero => .ok 0
  | .infinity _ => .error .outOfRange
  | .nan => .error (.invalid "cannot convert float NaN to integer")

/-- One half. -/
def Double.half : Double := .finite (mkRat 1 2)

/-- The nearest integer, a half going up. -/
def roundHalfUp (x : Double) : Except Fault Int := (x.add .half).floor

end CodeReview
