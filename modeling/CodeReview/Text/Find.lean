/-
Looking for one text inside another: at the front, at the end, anywhere, and replacing every
occurrence.
-/

namespace CodeReview.Text

/-- What follows `front` when the text begins with it. -/
def dropFront? : List Char → List Char → Option (List Char)
  | [], text => some text
  | _ :: _, [] => none
  | c :: front, d :: text => if c = d then dropFront? front text else none

/-- The text begins with `front`. -/
def startsWith (text front : List Char) : Bool := front.isPrefixOf text

/-- The text ends with `tail`. -/
def endsWith (text tail : List Char) : Bool := tail.reverse.isPrefixOf text.reverse

/-- `part` occurs somewhere in the text. -/
def contains : List Char → List Char → Bool
  | [], part => part.isEmpty
  | c :: rest, part => part.isPrefixOf (c :: rest) || contains rest part

/-- What stands before and after the first `sep`; without one, the whole text and nothing. -/
def cutAtFirst (sep : Char) (text : List Char) : List Char × List Char :=
  (text.takeWhile (· ≠ sep), (text.dropWhile (· ≠ sep)).drop 1)

/-- What follows the last `sep`; without one, the whole text. -/
def afterLast (sep : Char) (text : List Char) : List Char :=
  (text.reverse.takeWhile (· ≠ sep)).reverse

/-- The text without the `c`s it ends with. -/
def dropTrailing (c : Char) (text : List Char) : List Char :=
  (text.reverse.dropWhile (· = c)).reverse

/-- `c` repeated until the text is at least `width` characters long, put in front. -/
def padLeft (width : Nat) (c : Char) (text : List Char) : List Char :=
  List.replicate (width - text.length) c ++ text

end CodeReview.Text
