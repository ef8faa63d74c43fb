/-
Quoted scalars. Between single quotes a quote is written twice and nothing else is special; between
double quotes a backslash begins an escape. A line end counts as a blank, and empty lines as line
ends.
-/
import CodeReview.Json.Reader
import CodeReview.Yaml.Cursor

namespace CodeReview.Yaml.QuotedScalar

/-- The characters that escape letters stand for. -/
def escapes : List (Char × Char) := [
  ('0', '\x00'), ('a', '\x07'), ('b', '\x08'), ('t', '\t'), ('\t', '\t'), ('n', '\n'),
  ('v', '\x0b'), ('f', '\x0c'), ('r', '\r'), ('e', '\x1b'), (' ', ' '), ('"', '"'), ('\\', '\\'),
  ('/', '/'), ('N', '\u0085'), ('_', '\u00a0'), ('L', '\u2028'), ('P', '\u2029')]

/-- How many digits follow an escape letter. -/
def escapeWidth? : Char → Option Nat
  | 'x' => some 2
  | 'u' => some 4
  | 'U' => some 8
  | _ => none

/-- The character that stands for a code point. -/
def charAt (code : Nat) : Except Fault Char :=
  if 0x7FFFFFFF < code then .error .outOfRange
  else if 0x10FFFF < code then .error (.invalid "code point out of range")
  else .ok (Text.ofCodePoint code)

def hexNumber (digits : List Char) : Nat :=
  digits.foldl (fun n d => 16 * n + (Json.hexValue? d).getD 0) 0

/-- The character that `width` digits spell. -/
def codedChar (width : Nat) (c : Cursor) : Except Fault (Char × Cursor) :=
  let digits := c.rest.take width
  if digits.length = width && digits.all isHexDigit then
    (charAt (hexNumber digits)).map fun ch => (ch, c.skip width)
  else .error tokenFault

/-- Empty lines: their ends, and the place after the blanks of the next line. A marker of the
document's end is a fault. -/
def emptyLines : Nat → Cursor → Except Fault (List Char × Cursor)
  | 0, c => .ok ([], c)
  | fuel + 1, c =>
    if c.atMarker then .error tokenFault
    else
      let c := c.skipWhile fun ch => ch == ' ' || ch == '\t'
      let (br, after) := c.lineBreak
      if br.isEmpty then .ok ([], c)
      else (emptyLines fuel after).map fun (breaks, c) => (br ++ breaks, c)

/-- What follows a backslash. -/
def escape (c : Cursor) : Except Fault (List Char × Cursor) :=
  match c.peek with
  | none => .error tokenFault
  | some ch =>
    match escapes.lookup ch with
    | some value => .ok ([value], c.next)
    | none =>
      match escapeWidth? ch with
      | some width => (codedChar width c.next).map fun (value, c) => ([value], c)
      | none =>
        if isBreak ch then
          let after := c.lineBreak.2
          emptyLines (after.rest.length + 1) after
        else .error tokenFault

/-- The characters up to a gap or the closing quote. -/
def word (double : Bool) : Nat → Cursor → Except Fault (List Char × Cursor)
  | 0, c => .ok ([], c)
  | fuel + 1, c =>
    let on (text : List Char) (c : Cursor) : Except Fault (List Char × Cursor) :=
      (word double fuel c).map fun (more, c) => (text ++ more, c)
    match c.peek with
    | none => .ok ([], c)
    | some '\'' =>
      if double then on ['\''] c.next
      else if c.peekAt 1 = some '\'' then on ['\''] (c.skip 2)
      else .ok ([], c)
    | some '"' => if double then .ok ([], c) else on ['"'] c.next
    | some '\\' =>
      if double then do
        let (text, c) ← escape c.next
        on text c
      else on ['\\'] c.next
    | some ch => if isGap (some ch) then .ok ([], c) else on [ch] c.next

/-- What a gap counts as, and the place after it. -/
def gap (c : Cursor) : Except Fault (List Char × Cursor) :=
  let blanks := c.upTo fun ch => ch == ' ' || ch == '\t'
  let c := c.skip blanks.length
  if c.peek.isNone then .error tokenFault
  else
    let (br, after) := c.lineBreak
    if br.isEmpty then .ok (blanks, c)
    else (emptyLines (after.rest.length + 1) after).map fun (breaks, c) =>
      ((if br ≠ ['\n'] then br else if breaks.isEmpty then [' '] else []) ++ breaks, c)

/-- Gaps and words up to the closing quote. -/
def body (double : Bool) (quote : Char) : Nat → Cursor → Except Fault (List Char × Cursor)
  | 0, _ => .error tokenFault
  | fuel + 1, c =>
    if c.peek = some quote then .ok ([], c.next)
    else do
      let (spaces, c) ← gap c
      let (text, c) ← word double (c.rest.length + 1) c
      let (more, c) ← body double quote fuel c
      return (spaces ++ text ++ more, c)

/-- Reads a quoted scalar from its opening quote on. -/
def read (c : Cursor) : Except Fault (List Char × Cursor) := do
  let double := c.peek = some '"'
  let quote := if double then '"' else '\''
  let fuel := c.rest.length + 1
  let (text, c) ← word double fuel c.next
  let (more, c) ← body double quote fuel c
  return (text ++ more, c)

end CodeReview.Yaml.QuotedScalar
