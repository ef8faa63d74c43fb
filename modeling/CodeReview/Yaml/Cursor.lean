/-
Places in a YAML text: what follows, how many characters went before, and the line and the column. The
kinds of characters that end words and lines are told apart here.
-/
import CodeReview.Fault

namespace CodeReview.Yaml

/-! ## Characters -/

/-- The character ends a line. -/
def isBreak (c : Char) : Bool :=
  c == '\n' || c == '\r' || c == '\u0085' || c == '\u2028' || c == '\u2029'

/-- The line ends here. -/
def endsLine : Option Char → Bool
  | none => true
  | some c => isBreak c

/-- The line ends here, or a blank follows. -/
def endsWord : Option Char → Bool
  | none => true
  | some c => c == ' ' || isBreak c

/-- The line ends here, or a blank or a tab follows. -/
def isGap : Option Char → Bool
  | none => true
  | some c => c == ' ' || c == '\t' || isBreak c

/-- The character can stand in a document. -/
def isAdmitted (c : Char) : Bool :=
  let n := c.toNat
  n == 9 || n == 10 || n == 13 || (0x20 ≤ n && n ≤ 0x7E) || n == 0x85 ||
    (0xA0 ≤ n && n ≤ 0xD7FF) || (0xE000 ≤ n && n ≤ 0xFFFD) || 0x10000 ≤ n

/-- The mark that may stand at the beginning of a text; it takes no column. -/
def byteOrderMark : Char := '\ufeff'

/-- The character can stand in a name. -/
def isNameChar (c : Char) : Bool :=
  ('0' ≤ c && c ≤ '9') || ('A' ≤ c && c ≤ 'Z') || ('a' ≤ c && c ≤ 'z') || c == '-' || c == '_'

def isHexDigit (c : Char) : Bool :=
  ('0' ≤ c && c ≤ '9') || ('A' ≤ c && c ≤ 'F') || ('a' ≤ c && c ≤ 'f')

/-! ## Places -/

structure Cursor where
  rest : List Char
  index : Nat := 0
  line : Nat := 0
  column : Nat := 0
  deriving Repr

namespace Cursor

/-- What follows. -/
def peek (c : Cursor) : Option Char := c.rest.head?

/-- What follows after `n` more characters. -/
def peekAt (c : Cursor) (n : Nat) : Option Char := c.rest[n]?

/-- The place after the next character. -/
def next (c : Cursor) : Cursor :=
  match c.rest with
  | [] => c
  | ch :: rest =>
    if isBreak ch && !(ch == '\r' && rest.head? == some '\n') then
      { rest, index := c.index + 1, line := c.line + 1, column := 0 }
    else
      { rest, index := c.index + 1, line := c.line
        column := if ch = byteOrderMark then c.column else c.column + 1 }

/-- The place after `n` more characters. -/
def skip : Nat → Cursor → Cursor
  | 0, c => c
  | n + 1, c => skip n c.next

/-- The characters that follow as long as they pass a test. -/
def upTo (c : Cursor) (p : Char → Bool) : List Char := c.rest.takeWhile p

/-- The place after the characters that pass a test. -/
def skipWhile (c : Cursor) (p : Char → Bool) : Cursor := c.skip (c.upTo p).length

def skipBlanks (c : Cursor) : Cursor := c.skipWhile (· == ' ')

/-- The place after the blanks that follow, but in no later column than `column`. -/
def skipIndentation (c : Cursor) (column : Nat) : Cursor :=
  c.skip (min (column - c.column) (c.upTo (· == ' ')).length)

/-- The line end that follows, as it counts in a text, and the place after it; nothing where none
follows. -/
def lineBreak (c : Cursor) : List Char × Cursor :=
  match c.rest with
  | '\r' :: '\n' :: _ => (['\n'], c.skip 2)
  | ch :: _ =>
    if ch == '\u2028' || ch == '\u2029' then ([ch], c.next)
    else if isBreak ch then (['\n'], c.next)
    else ([], c)
  | [] => ([], c)

/-- The place after a comment, if one follows. -/
def skipComment (c : Cursor) : Cursor :=
  if c.peek = some '#' then c.skipWhile (!isBreak ·) else c

/-- Three hyphens or three points follow, and then a gap. -/
def atMarker (c : Cursor) : Bool :=
  match c.rest with
  | '-' :: '-' :: '-' :: rest => isGap rest.head?
  | '.' :: '.' :: '.' :: rest => isGap rest.head?
  | _ => false

end Cursor

/-- A text that forms no token. -/
def tokenFault : Fault := .malformedYaml .token

end CodeReview.Yaml
