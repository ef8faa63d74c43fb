/-
Plain scalars: texts without quotes. One ends at a colon or a comment sign set off by blanks, inside
brackets also at a comma, a question mark or a bracket; it may go on over several lines, whose ends
count as blanks.
-/
import CodeReview.Yaml.Cursor

namespace CodeReview.Yaml

/-- A plain scalar as it is read. -/
structure PlainScalar where
  text : List Char
  cursor : Cursor
  /-- It ended at the beginning of a line, where a key may follow. -/
  keyAllowed : Bool

namespace PlainScalar

/-- A character of a plain scalar, followed by `next`. -/
def goesOn (inFlow : Bool) (c : Char) (next : Option Char) : Bool :=
  !isGap (some c) &&
    !(c == ':' && (isGap next || (inFlow && next.any fun d => ",[]\x7b\x7d".toList.contains d))) &&
    !(inFlow && ",?[]\x7b\x7d".toList.contains c)

/-- The characters up to where the scalar ends or a gap follows. -/
def run (inFlow : Bool) : List Char → List Char
  | [] => []
  | c :: rest => if goesOn inFlow c rest.head? then c :: run inFlow rest else []

/-- The gap after a run of characters: what it counts as, where it ends, and whether it holds a line
end. A marker of the document's end is no part of it. -/
structure Gap where
  text : List Char
  cursor : Cursor
  newLine : Bool

/-- Further line ends and blanks at the beginning of lines; `none` where a marker follows. -/
def furtherBreaks : Nat → Cursor → List Char → Option (List Char) × Cursor
  | 0, c, breaks => (some breaks, c)
  | fuel + 1, c, breaks =>
    match c.peek with
    | some ' ' => furtherBreaks fuel c.next breaks
    | some ch =>
      if isBreak ch then
        let (br, after) := c.lineBreak
        if after.atMarker then (none, after) else furtherBreaks fuel after (breaks ++ br)
      else (some breaks, c)
    | none => (some breaks, c)

def gap (c : Cursor) : Gap :=
  let blanks := c.upTo (· == ' ')
  let c := c.skip blanks.length
  let (br, after) := c.lineBreak
  if br.isEmpty then ⟨blanks, c, false⟩
  else if after.atMarker then ⟨[], after, true⟩
  else
    match furtherBreaks after.rest.length after [] with
    | (none, c) => ⟨[], c, true⟩
    | (some breaks, c) =>
      ⟨(if br ≠ ['\n'] then br else if breaks.isEmpty then [' '] else []) ++ breaks, c, true⟩

/-- Reads on, after the text so far and the gap that may come next. -/
def readFrom (inFlow : Bool) (column : Int) :
    Nat → List Char → List Char → Bool → Cursor → PlainScalar
  | 0, text, _, keyAllowed, c => ⟨text, c, keyAllowed⟩
  | fuel + 1, text, spaces, keyAllowed, c =>
    if c.peek = some '#' then ⟨text, c, keyAllowed⟩
    else
      let word := run inFlow c.rest
      if word.isEmpty then ⟨text, c, keyAllowed⟩
      else
        let text := text ++ spaces ++ word
        let g := gap (c.skip word.length)
        if g.text.isEmpty || g.cursor.peek = some '#' ||
            (!inFlow && (g.cursor.column : Int) < column) then
          ⟨text, g.cursor, g.newLine⟩
        else readFrom inFlow column fuel text g.text g.newLine g.cursor

/-- Reads a plain scalar whose further lines, outside of brackets, begin in `column` or later. -/
def read (inFlow : Bool) (column : Int) (c : Cursor) : PlainScalar :=
  readFrom inFlow column (c.rest.length + 1) [] [] false c

end PlainScalar

end CodeReview.Yaml
