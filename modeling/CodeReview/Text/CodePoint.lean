/-
Code points. A text of the host may hold half of a surrogate pair without the other half, and such a
half is a code point but no character. It stands in a text as the character 0x50000 places above it,
in a block of which no version of Unicode assigns anything. Classes of characters are tables of ranges of
code points.
-/

namespace CodeReview.Text

/-- The code point is half of a surrogate pair. -/
def isSurrogate (n : Nat) : Bool := 0xD800 ≤ n && n < 0xE000

/-- The character that stands for a code point. -/
def ofCodePoint (n : Nat) : Char := if isSurrogate n then Char.ofNat (n + 0x50000) else Char.ofNat n

/-- The code point that a character stands for. -/
def codePoint (c : Char) : Nat :=
  if 0x5D800 ≤ c.toNat && c.toNat < 0x5E000 then c.toNat - 0x50000 else c.toNat

/-- `n` lies in one of the ascending ranges; the search stops at the first range above `n`. -/
def inRanges : List (Nat × Nat) → Nat → Bool
  | [], _ => false
  | (low, high) :: rest, n => if n < low then false else n ≤ high || inRanges rest n

end CodeReview.Text
