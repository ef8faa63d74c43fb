/-
Block scalars: texts on lines of their own, indented further than what they belong to. A literal one
keeps its line ends; in a folded one a single line end between two lines of text counts as a blank.
-/
import CodeReview.Yaml.Cursor

namespace CodeReview.Yaml.BlockScalar

/-- What becomes of the line ends after the last line. -/
inductive Ending where
  /-- The first is kept. -/
  | clip
  | strip
  | keep
  deriving DecidableEq, Repr

/-- What the line of the indicator says. -/
structure Header where
  ending : Ending := .clip
  /-- How much further the text is indented, where it is said. -/
  increment : Option Nat := none

def ending? : Option Char → Option Ending
  | some '+' => some .keep
  | some '-' => some .strip
  | _ => none

/-- A digit that says how far the text is indented; zero is a fault. -/
def increment (c : Cursor) : Except Fault (Option Nat × Cursor) :=
  match c.peek with
  | some ch =>
    if '0' ≤ ch && ch ≤ '9' then
      if ch = '0' then .error tokenFault else .ok (some (ch.toNat - 48), c.next)
    else .ok (none, c)
  | none => .ok (none, c)

/-- The indicators, in either order, and then nothing but a comment up to the line's end. -/
def header (c : Cursor) : Except Fault (Header × Cursor) := do
  let (h, c) ← match ending? c.peek with
    | some ending => do
      let (increment, c) ← increment c.next
      pure (⟨ending, increment⟩, c)
    | none => do
      let (increment, c) ← increment c
      match increment, ending? c.peek with
      | some n, some ending => pure (⟨ending, some n⟩, c.next)
      | n, _ => pure (⟨.clip, n⟩, c)
  if !endsWord c.peek then throw tokenFault
  let c := c.skipBlanks.skipComment
  if !endsLine c.peek then throw tokenFault
  return (h, c.lineBreak.2)

/-- The ends of empty lines, and the place on the next line, in no later column than `column`. -/
def emptyLines (column : Nat) : Nat → Cursor → List Char × Cursor
  | 0, c => ([], c)
  | fuel + 1, c =>
    let c := c.skipIndentation column
    let (br, after) := c.lineBreak
    if br.isEmpty then ([], c)
    else
      let (breaks, c) := emptyLines column fuel after
      (br ++ breaks, c)

/-- The ends of the empty lines before the first line of text, the last column reached by their
blanks, and the place. -/
def leadingLines : Nat → Nat → Cursor → List Char × Nat × Cursor
  | 0, column, c => ([], column, c)
  | fuel + 1, column, c =>
    match c.peek with
    | some ' ' => leadingLines fuel (max column c.next.column) c.next
    | _ =>
      let (br, after) := c.lineBreak
      if br.isEmpty then ([], column, c)
      else
        let (breaks, column, c) := leadingLines fuel column after
        (br ++ breaks, column, c)

def isBlankOrTab (c : Option Char) : Bool := c == some ' ' || c == some '\t'

/-- The lines of text: the text, the last line end and the ends of the empty lines after it. -/
def lines (folded : Bool) (column : Nat) :
    Nat → List Char → Cursor → List Char × List Char × List Char × Cursor
  | 0, breaks, c => ([], [], breaks, c)
  | fuel + 1, breaks, c =>
    if c.column = column && c.peek.isSome then
      let line := c.upTo (!isBreak ·)
      let (br, after) := (c.skip line.length).lineBreak
      let (more, next) := emptyLines column (after.rest.length + 1) after
      if next.column = column && next.peek.isSome then
        let glue :=
          if folded && br = ['\n'] && !isBlankOrTab c.peek && !isBlankOrTab next.peek then
            if more.isEmpty then [' '] else []
          else br
        let (text, rest) := lines folded column fuel more next
        (breaks ++ line ++ glue ++ text, rest)
      else (breaks ++ line, br, more, next)
    else ([], [], breaks, c)

/-- Reads a block scalar that belongs to something in column `indent`, from its indicator on. -/
def read (folded : Bool) (indent : Int) (c : Cursor) : Except Fault (List Char × Cursor) := do
  let (h, c) ← header c.next
  let least := (max (indent + 1) 1).toNat
  let fuel := c.rest.length + 1
  let (column, breaks, c) := match h.increment with
    | some n =>
      let column := least + n - 1
      let (breaks, c) := emptyLines column fuel c
      (column, breaks, c)
    | none =>
      let (breaks, reached, c) := leadingLines fuel 0 c
      (max least reached, breaks, c)
  let (text, br, breaks, c) := lines folded column fuel breaks c
  return (text ++ (match h.ending with
    | .strip => []
    | .clip => br
    | .keep => br ++ breaks), c)

end CodeReview.Yaml.BlockScalar
