/-
Text patterns: what a single character must be, and how characters follow one another. A pattern is
written down with the constructors here, or read from its usual notation by `Pattern.read`.
-/
import CodeReview.Text.Blank
import CodeReview.Text.Case
import CodeReview.Text.CodePoint
import CodeReview.Text.Digit
import CodeReview.Text.Word

namespace CodeReview.Pattern

/-! ## Single characters -/

/-- How letters are compared: as they are, ignoring the case of ASCII letters, or ignoring the case
of all letters. -/
inductive Letters where
  | exact
  | asciiFold
  | fold
  deriving DecidableEq, Repr

/-- The named classes of characters. -/
inductive ClassName where
  | digit
  | blank
  | word
  deriving DecidableEq, Repr

/-- One member of a set of characters. Characters are given by their code points. -/
inductive SetItem where
  | code (n : Nat)
  | range (low high : Nat)
  | named (name : ClassName) (negated asciiOnly : Bool)
  deriving DecidableEq, Repr

/-- A requirement on one character. -/
inductive CharTest where
  /-- Any character, a line feed only if `lineFeeds` is set. -/
  | any (lineFeeds : Bool)
  /-- A member of the set, or none of its members. -/
  | set (negated : Bool) (letters : Letters) (items : List SetItem)
  deriving DecidableEq, Repr

def ClassName.holds (name : ClassName) (asciiOnly : Bool) (c : Char) : Bool :=
  match name, asciiOnly with
  | .digit, false => Text.isDigit c
  | .digit, true => c.isDigit
  | .blank, false => Text.isBlank c
  | .blank, true => Text.isAsciiBlank c
  | .word, false => Text.isWordChar c
  | .word, true => Text.isAsciiWordChar c

/-- The code point `n` is the character `c`, as far as `letters` tells them apart. -/
def Letters.agree (letters : Letters) (n : Nat) (c : Char) : Bool :=
  match letters with
  | .exact => n == Text.codePoint c
  | .asciiFold => n == Text.codePoint c || (Text.ofCodePoint n).toLower == c.toLower
  | .fold => Text.sameLetterCode n (Text.codePoint c)

/-- The code points that `letters` does not tell apart from `c`. -/
def Letters.variants (letters : Letters) (c : Char) : List Nat :=
  match letters with
  | .exact => [Text.codePoint c]
  | .asciiFold => [Text.codePoint c, c.toLower.toNat, c.toUpper.toNat]
  | .fold => Text.codePoint c :: Text.caseVariants (Text.codePoint c)

def SetItem.holds (letters : Letters) (c : Char) : SetItem → Bool
  | .code n => letters.agree n c
  | .range low high =>
    (low ≤ Text.codePoint c && Text.codePoint c ≤ high) ||
      (letters != .exact && (letters.variants c).any fun n => low ≤ n && n ≤ high)
  | .named name negated asciiOnly => name.holds asciiOnly c != negated

def CharTest.holds (c : Char) : CharTest → Bool
  | .any lineFeeds => lineFeeds || c != '\n'
  | .set negated letters items => items.any (·.holds letters c) != negated

end Pattern

/-! ## Patterns -/

/-- Which of several numbers of repetitions is tried first. A possessive repetition takes as many as
there are and gives none back. -/
inductive Repetition where
  | greedy
  | reluctant
  | possessive
  deriving DecidableEq, Repr

/-- A place in a text. -/
inductive Anchor where
  | textStart
  | lineStart
  | textEnd
  /-- The end, or a line feed that is the last character. -/
  | lastLineEnd
  | lineEnd
  | wordBoundary (asciiOnly : Bool)
  /-- No edge of a word; an empty text has no such place. -/
  | noWordBoundary (asciiOnly : Bool)
  deriving DecidableEq, Repr

inductive Pattern where
  | empty
  | never
  | char (test : Pattern.CharTest)
  | seq (first second : Pattern)
  | alt (first second : Pattern)
  /-- A character repeated at least `least` and at most `most` times. -/
  | chars (test : Pattern.CharTest) (least : Nat) (most : Option Nat) (kind : Repetition)
  | repeated (body : Pattern) (least : Nat) (most : Option Nat) (kind : Repetition)
  /-- What the body matches is remembered under `index`. -/
  | capture (index : Nat) (body : Pattern)
  /-- The first way in which the body matches, and no other. -/
  | atomic (body : Pattern)
  /-- The body does match, or does not, from here on; nothing is consumed. -/
  | ahead (negated : Bool) (body : Pattern)
  /-- The body does match, or does not, from `width` characters before. -/
  | behind (negated : Bool) (width : Nat) (body : Pattern)
  /-- The text remembered under `index`. -/
  | recall (index : Nat) (letters : Pattern.Letters)
  /-- One of two patterns, by whether something is remembered under `index`. -/
  | ifCaptured (index : Nat) (yes no : Pattern)
  | anchor (place : Anchor)
  deriving DecidableEq, Repr, Inhabited

namespace Pattern

/-! ## Writing patterns down -/

/-- All of the patterns, one after the other. -/
def sequence : List Pattern → Pattern
  | [] => .empty
  | [p] => p
  | p :: ps => .seq p (sequence ps)

/-- Any of the patterns, tried in order. -/
def oneOf : List Pattern → Pattern
  | [] => .never
  | [p] => p
  | p :: ps => .alt p (oneOf ps)

/-- The test for one given character. -/
def CharTest.only (c : Char) : CharTest := .set false .exact [.code (Text.codePoint c)]

/-- The test for one of the given characters. -/
def CharTest.among (cs : String) : CharTest := .set false .exact (cs.toList.map fun c => .code (Text.codePoint c))

/-- The test for any but the given characters. -/
def CharTest.except (cs : String) : CharTest := .set true .exact (cs.toList.map fun c => .code (Text.codePoint c))

def CharTest.blank : CharTest := .set false .exact [.named .blank false false]
def CharTest.word : CharTest := .set false .exact [.named .word false false]
def CharTest.digit : CharTest := .set false .exact [.named .digit false false]

/-- Any character that does not end the line. -/
def CharTest.inLine : CharTest := .any false

/-- The characters of a text, one after the other. -/
def literal (text : String) : Pattern := sequence (text.toList.map fun c => .char (.only c))

/-- As many of the characters as there are, or fewer. -/
def many (test : CharTest) : Pattern := .chars test 0 none .greedy

/-- As many of the characters as there are, or fewer, and at least one. -/
def oneOrMore (test : CharTest) : Pattern := .chars test 1 none .greedy

/-- The pattern or nothing, the pattern first. -/
def optional (p : Pattern) : Pattern := .repeated p 0 (some 1) .greedy

/-- The character or nothing, the character first. -/
def optionalChar (test : CharTest) : Pattern := .chars test 0 (some 1) .greedy

def wordEdge : Pattern := .anchor (.wordBoundary false)

/-- The pattern with every letter compared without regard to case. -/
def ignoringCase : Pattern → Pattern
  | .char test => .char (foldTest test)
  | .chars test least most kind => .chars (foldTest test) least most kind
  | .seq p q => .seq p.ignoringCase q.ignoringCase
  | .alt p q => .alt p.ignoringCase q.ignoringCase
  | .repeated p least most kind => .repeated p.ignoringCase least most kind
  | .capture index p => .capture index p.ignoringCase
  | .atomic p => .atomic p.ignoringCase
  | .ahead negated p => .ahead negated p.ignoringCase
  | .behind negated width p => .behind negated width p.ignoringCase
  | .recall index _ => .recall index .fold
  | .ifCaptured index p q => .ifCaptured index p.ignoringCase q.ignoringCase
  | p => p
where
  foldTest : CharTest → CharTest
    | .set negated _ items => .set negated .fold items
    | test => test

end Pattern

end CodeReview
