/-
Integers written in decimal: the digits of a number, and the integer that a text spells out by hand,
with blanks around it, a sign, digits of any script and single underscores between digits.
-/
import CodeReview.Text.Blank
import CodeReview.Text.Digit

namespace CodeReview.Integer

/-- The decimal digits of an integer, with a minus sign where it is negative. -/
def text (i : Int) : List Char :=
  (if i < 0 then ['-'] else []) ++ Nat.toDigits 10 i.natAbs

/-- The number whose ASCII digits are given, the first being the highest. -/
def ofDigits (digits : List Char) : Nat :=
  digits.foldl (fun n c => 10 * n + (c.toNat - 48)) 0

/-- No integer with more digits than this is read from a text. -/
def maxDigits : Nat := 4300

/-- Blanks that may surround a number; the separators of files, groups, records and units may not. -/
def isMargin (c : Char) : Bool := Text.isBlank c && !(28 ≤ c.toNat && c.toNat ≤ 31)

/-- The values of digits with at most one underscore between two of them; `after` says that a digit
went before. -/
def digitValues? (after : Bool) : List Char → Option (List Nat)
  | [] => if after then some [] else none
  | c :: rest =>
    if c = '_' then if after then digitValues? false rest else none
    else match Text.digitValue? c with
      | some d => (digitValues? true rest).map (d :: ·)
      | none => none

/-- The integer that a text spells out. -/
def ofText? (source : List Char) : Option Int :=
  let body := ((source.dropWhile isMargin).reverse.dropWhile isMargin).reverse
  let (negative, digits) := match body with
    | '-' :: rest => (true, rest)
    | '+' :: rest => (false, rest)
    | _ => (false, body)
  match digitValues? false digits with
  | none => none
  | some values =>
    if maxDigits < values.length then none
    else
      let n : Nat := values.foldl (fun n d => 10 * n + d) 0
      some (if negative then -(n : Int) else n)

end CodeReview.Integer
