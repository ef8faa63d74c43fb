/-
Blank characters and what is defined by them: trimming a text at its ends and cutting it into words.
The blanks are those of every script, and the four control characters that separate files, groups,
records and units; a zero-width space is none.
-/

namespace CodeReview.Text

/-- White space of any script. -/
def isBlank (c : Char) : Bool :=
  let n := c.toNat
  (9 ≤ n && n ≤ 13) || (28 ≤ n && n ≤ 32) || n == 0x85 || n == 0xA0 || n == 0x1680 ||
    (0x2000 ≤ n && n ≤ 0x200A) || n == 0x2028 || n == 0x2029 || n == 0x202F || n == 0x205F ||
    n == 0x3000

/-- White space in texts that know ASCII only. -/
def isAsciiBlank (c : Char) : Bool := c == ' ' || (9 ≤ c.toNat && c.toNat ≤ 13)

/-- The text without the blanks it begins with. -/
def stripLeft (text : List Char) : List Char := text.dropWhile isBlank

/-- The text without the blanks it ends with. -/
def stripRight (text : List Char) : List Char := (text.reverse.dropWhile isBlank).reverse

/-- The text without the blanks at its two ends. -/
def strip (text : List Char) : List Char := stripRight (stripLeft text)

/-- The words of a text, with `word` holding the last letters read in reverse. -/
def wordsFrom : List Char → List Char → List (List Char)
  | word, [] => if word.isEmpty then [] else [word.reverse]
  | word, c :: rest =>
    if isBlank c then
      if word.isEmpty then wordsFrom [] rest else word.reverse :: wordsFrom [] rest
    else wordsFrom (c :: word) rest

/-- The maximal runs of characters that are not blank, in order. -/
def words (text : List Char) : List (List Char) := wordsFrom [] text

theorem wordsFrom_eq_nil_iff {word text : List Char} :
    wordsFrom word text = [] ↔ word = [] ∧ ∀ c ∈ text, isBlank c = true := by
  induction text generalizing word with
  | nil => cases word <;> simp [wordsFrom]
  | cons c text ih =>
    unfold wordsFrom
    cases hblank : isBlank c with
    | true => cases word <;> simp [ih, hblank]
    | false => simp [ih, hblank]

/-- A text without words has nothing but blanks. -/
theorem words_eq_nil_iff {text : List Char} : words text = [] ↔ ∀ c ∈ text, isBlank c = true := by
  unfold words
  rw [wordsFrom_eq_nil_iff, and_iff_right rfl]

end CodeReview.Text
