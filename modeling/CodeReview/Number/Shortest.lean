/-
The decimal text of a floating-point number: the fewest digits that read back as the number and, of
those, the nearest to it. `shortestDigits` finds the digits and `Double.text` lays them out.
-/
import CodeReview.Number.Double
import CodeReview.Text.Find

namespace CodeReview.Double

/-- `10 ^ exponent`. -/
def powerOfTen (exponent : Int) : Rat :=
  if 0 ≤ exponent then (tenTo exponent.toNat : Rat) else mkRat 1 (tenTo (-exponent).toNat)

/-- The place of the first significant digit of a positive magnitude: `0` for the units. -/
def leadingPlace (magnitude : Rat) : Int :=
  let guess : Int := ((Nat.toDigits 10 magnitude.num.natAbs).length : Int) -
    ((Nat.toDigits 10 magnitude.den).length : Int)
  if powerOfTen guess ≤ magnitude then guess else guess - 1

/-- The multiple of `10 ^ place` next to the magnitude that reads back as it; of two, the nearer, and
of two equally near ones the even one. -/
def readsBackAt (magnitude : Rat) (place : Int) : Option Nat :=
  let unit := powerOfTen place
  let below := (magnitude / unit).floor.toNat
  let fits (n : Nat) : Bool := roundMagnitude (n * unit) == some magnitude
  let gapBelow := magnitude - below * unit
  let gapAbove := (below + 1 : Nat) * unit - magnitude
  match below ≠ 0 && fits below, fits (below + 1) with
  | true, true =>
    if gapBelow < gapAbove then some below
    else if gapAbove < gapBelow then some (below + 1)
    else some (if below % 2 = 0 then below else below + 1)
  | true, false => some below
  | false, true => some (below + 1)
  | false, false => none

/-- Tries `count + 1`, `count + 2`, … digits until one reading fits; `fuel` bounds the tries. -/
def searchDigits (magnitude : Rat) (lead : Int) (fuel count : Nat) : Nat × Int :=
  match readsBackAt magnitude (lead - count), fuel with
  | some digits, _ => (digits, lead - count)
  | none, 0 => ((magnitude / powerOfTen (lead - count)).floor.toNat, lead - count)
  | none, fuel + 1 => searchDigits magnitude lead fuel (count + 1)

/-- Digits without a trailing zero, and the place of the last of them. -/
def dropTrailingZeros (fuel digits : Nat) (place : Int) : Nat × Int :=
  match fuel with
  | 0 => (digits, place)
  | fuel + 1 =>
    if digits ≠ 0 && digits % 10 = 0 then dropTrailingZeros fuel (digits / 10) (place + 1)
    else (digits, place)

/-- The fewest digits that read back as a positive magnitude, and the place of the last of them. -/
def shortestDigits (magnitude : Rat) : Nat × Int :=
  let (digits, place) := searchDigits magnitude (leadingPlace magnitude) 16 0
  dropTrailingZeros 400 digits place

/-- How decimals are laid out: the places of the first digit between which a number is written
without an exponent, and how many digits an exponent has at least. -/
structure Layout where
  lowest : Int
  highest : Int
  exponentWidth : Nat

/-- Numbers from `0.0001` up to `10 ^ 16` are written without an exponent. -/
def plainLayout : Layout := ⟨-4, 15, 2⟩

/-- The digits of an exponent with its sign. -/
def exponentText (layout : Layout) (exponent : Int) : List Char :=
  (if exponent < 0 then '-' else '+') ::
    Text.padLeft layout.exponentWidth '0' (Nat.toDigits 10 exponent.natAbs)

/-- The text of a positive magnitude with the given digits, the last of them at `place`. -/
def layOut (layout : Layout) (digits : Nat) (place : Int) : List Char :=
  let ds := Nat.toDigits 10 digits
  let lead : Int := place + (ds.length : Int) - 1
  if layout.lowest ≤ lead && lead ≤ layout.highest then
    if 0 ≤ place then ds ++ List.replicate place.toNat '0' ++ ['.', '0']
    else if 0 ≤ lead then ds.take (lead.toNat + 1) ++ '.' :: ds.drop (lead.toNat + 1)
    else '0' :: '.' :: List.replicate ((-lead).toNat - 1) '0' ++ ds
  else
    match ds with
    | [d] => d :: 'e' :: exponentText layout lead
    | d :: more => d :: '.' :: more ++ 'e' :: exponentText layout lead
    | [] => []

/-- The text of a finite number; the zeros are written `0.0` and `-0.0`. -/
def finiteText (value : Rat) : List Char :=
  if value = 0 then ['0', '.', '0']
  else
    let (digits, place) := shortestDigits (if value < 0 then -value else value)
    (if value < 0 then ['-'] else []) ++ layOut plainLayout digits place

/-- The text of a number, with names for what is not finite. -/
def text : Double → List Char
  | .finite value => finiteText value
  | .negZero => "-0.0".toList
  | .infinity negative => if negative then "-inf".toList else "inf".toList
  | .nan => "nan".toList

end CodeReview.Double
