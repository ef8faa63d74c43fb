/-
Floating-point numbers written in decimal: digits with or without a point, an exponent, or a name.
-/
import CodeReview.Number.Double
import CodeReview.Number.Integer

namespace CodeReview.Decimal

def isDigit (c : Char) : Bool := '0' ≤ c && c ≤ '9'

/-- The number with the given digits and exponent. An exponent far out of range is cut to one that
gives the same number. -/
def ofDigits (negative : Bool) (digits : List Char) (exponent : Int) : Double :=
  let n := Integer.ofDigits digits
  if n = 0 then Double.zero negative
  else
    let bound : Int := digits.length + 400
    let magnitude := Double.ofDecimal n (max (-bound) (min bound exponent))
    if negative then magnitude.neg else magnitude

/-- The exponent that a whole text spells, after its letter. -/
def exponent? (text : List Char) : Option Int :=
  match text with
  | [] => some 0
  | e :: rest =>
    if e = 'e' || e = 'E' then
      let (negative, digits) := match rest with
        | '-' :: more => (true, more)
        | '+' :: more => (false, more)
        | _ => (false, rest)
      if digits.isEmpty || !digits.all isDigit then none
      else
        let n : Int := Integer.ofDigits digits
        some (if negative then -n else n)
    else none

/-- The number whose digits, point and exponent are given. -/
def magnitude? (negative : Bool) (text : List Char) : Option Double :=
  let whole := text.takeWhile isDigit
  let rest := text.dropWhile isDigit
  let (fraction, rest) := match rest with
    | '.' :: more => (more.takeWhile isDigit, more.dropWhile isDigit)
    | _ => ([], rest)
  if whole.isEmpty && fraction.isEmpty then none
  else (exponent? rest).map fun e => ofDigits negative (whole ++ fraction) (e - fraction.length)

/-- The names of infinity. -/
def infinities : List (List Char) := ["inf".toList, "infinity".toList]

/-- The number that a whole text in small letters spells. -/
def ofText? (text : List Char) : Option Double :=
  let body := ((text.dropWhile Integer.isMargin).reverse.dropWhile Integer.isMargin).reverse
  let (negative, body) := match body with
    | '-' :: rest => (true, rest)
    | '+' :: rest => (false, rest)
    | _ => (false, body)
  if infinities.contains body then some (.infinity negative)
  else if body = "nan".toList then some .nan
  else magnitude? negative body

end CodeReview.Decimal
