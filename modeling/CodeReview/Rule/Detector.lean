/-
Detectors. A detector looks at one line at a time and reports at most one finding a line. The kinds
here are those the rules are made of; a detector may also fail on a line.
-/
import CodeReview.Finding
import CodeReview.Number.Integer
import CodeReview.Pattern.Search
import CodeReview.Text.Blank
import CodeReview.Text.Find

namespace CodeReview

/-- A detector could not look at a line, or had no words for what it saw. -/
inductive DetectorFault where
  | failed
  deriving DecidableEq, Repr

structure Detector where
  rule : String
  category : String
  severity : String
  /-- The column of what offends in a line, if anything does. -/
  locate : List Char → Except DetectorFault (Option Nat)
  /-- What to say about a line with a finding. -/
  describe : List Char → Except DetectorFault String

namespace Detector

/-- The finding in the line with a number, if there is one. -/
def look (d : Detector) (number : Nat) (line : List Char) :
    Except DetectorFault (Option Finding) :=
  match d.locate line with
  | .error fault => .error fault
  | .ok none => .ok none
  | .ok (some column) =>
    (d.describe line).map fun message =>
      some ⟨number, column, message, d.severity, d.rule, d.category⟩

/-- The findings in lines of which the first has number `number`. -/
def scanFrom (d : Detector) : Nat → List (List Char) → Except DetectorFault (List Finding)
  | _, [] => .ok []
  | number, line :: lines =>
    match d.look number line with
    | .error fault => .error fault
    | .ok found => (scanFrom d (number + 1) lines).map (found.toList ++ ·)

/-- The findings in the lines of a text. -/
def scan (d : Detector) (lines : List (List Char)) : Except DetectorFault (List Finding) :=
  d.scanFrom 1 lines

/-! ## Patterns -/

/-- Where the first of the patterns that occurs in the line begins, if no text of `excuses` is in the
line. -/
def columnOf? (patterns : List Pattern) (excuses : List (List Char)) (line : List Char) :
    Option Nat :=
  if excuses.any (Text.contains line) then none
  else patterns.findSome? fun p => (p.search line).map (·.start.position + 1)

/-- Reports a line in which a pattern occurs, unless something in it excuses it. -/
def ofPatterns (rule category severity message : String) (patterns : List Pattern)
    (excuses : List String) : Detector where
  rule
  category
  severity
  locate line := .ok (columnOf? patterns (excuses.map String.toList) line)
  describe _ := .ok message

/-! ## Large literals -/

open Pattern in
/-- An array or object literal opens: after an equals sign, a colon, a comma, an opening parenthesis
or `return`, or at the beginning. -/
def literalOpening : Pattern :=
  sequence [
    oneOf [.anchor .textStart, .char (.among "=:(,"), .seq wordEdge (literal "return")],
    many .blank, .char (.among "[\x7b")]

/-- Reports a line of more than `maxLength` characters that opens a literal. -/
def ofLargeLiterals (rule category severity message : String) (maxLength : Int) : Detector where
  rule
  category
  severity
  locate line :=
    .ok (if (line.length : Int) ≤ maxLength then none
      else if literalOpening.occursIn (Text.strip line) then some 1 else none)
  describe _ := .ok message

/-! ## Magic numbers -/

open Pattern in
/-- A whole number above one, written without leading zeros. -/
def plainNumber : Pattern :=
  sequence [wordEdge,
    oneOf [.char (.set false .exact [.range 50 57]),
      .seq (.char (.set false .exact [.range 49 57])) (oneOrMore .digit)],
    wordEdge]

open Pattern in
/-- A constant in capitals is given its value. -/
def constantDefinition : Pattern :=
  sequence [.anchor .textStart, many .blank,
    optional (.seq (literal "export") (oneOrMore .blank)),
    oneOf [literal "const", sequence [literal "static", oneOrMore .blank, literal "readonly"],
      literal "readonly"],
    oneOrMore .blank, .char (.set false .exact [.range 65 90]),
    many (.set false .exact [.range 65 90, .range 48 57, .code 95]),
    many .blank, .char (.among ":=")]

/-- The first number in a line that is none of `allowed`. -/
def firstNumber? (allowed : List (List Char)) (line : List Char) : Option Pattern.Found :=
  (plainNumber.all line).find? fun found => !allowed.contains found.text

/-- The number to report in a line: none where the line names a constant. -/
def magicNumber? (allowed : List (List Char)) (line : List Char) : Option Pattern.Found :=
  if (constantDefinition.matchStart line).isSome then none else firstNumber? allowed line

def magicMessage (number : List Char) : String :=
  "Magic number detected: " ++ String.ofList number ++ ". Consider using a named constant."

/-- Reports a line with a number that is none of `allowed`. -/
def ofMagicNumbers (rule category severity : String) (allowed : List String) : Detector where
  rule
  category
  severity
  locate line :=
    .ok ((magicNumber? (allowed.map String.toList) line).map (·.start.position + 1))
  describe line :=
    .ok (match magicNumber? (allowed.map String.toList) line with
      | some found => magicMessage found.text
      | none => magicMessage ['?'])

/-! ## Failure -/

/-- Fails on every line. -/
def failing (rule category severity message : String) : Detector where
  rule
  category
  severity
  locate _ := .error .failed
  describe _ := .ok message

end Detector

end CodeReview
