/-
Quick fixes: how a line is mended for a rule, and how the fixes for a list of issues are applied to
a text, one after the other, each to what the fix before it left. A line that is a comment is left
alone.
-/
import CodeReview.Fault
import CodeReview.Rule.Performance
import CodeReview.Rule.Style
import CodeReview.Text.Lines

namespace CodeReview.Fix

open Pattern

/-! ## Mending a line -/

/-- The line as a comment, with its indentation kept. -/
def commentOut (line : List Char) : List Char :=
  line.takeWhile Text.isBlank ++ ['/', '/', ' '] ++ line.dropWhile Text.isBlank

def varPattern : Pattern := sequence [wordEdge, literal "var", oneOrMore .blank]

/-- The first `var` becomes `let`. -/
def varToLet (line : List Char) : List Char :=
  varPattern.replaceFirst (fun _ => "let ".toList) line

/-- Every loose comparison becomes a strict one. -/
def strictEquality (line : List Char) : List Char :=
  (Rule.looseEquality (.capture 1 ·)).replaceAll (fun found => found.group 1 ++ ['=', '=']) line

/-- The first number that needs a name becomes a constant named for it. -/
def nameNumber (line : List Char) : List Char :=
  match Detector.firstNumber? (Rule.allowedNumbers.map String.toList) line with
  | some found =>
    found.start.before.reverse ++ "CONSTANT_".toList ++ found.text ++ found.stop.rest
  | none => line

/-- A loop over the keys of an object: the keyword, the variable and the object are remembered under
1, 2 and 3. -/
def forInPattern : Pattern :=
  sequence [Rule.forInOpening (.capture 1 ·) (.capture 2 ·), .capture 3 (oneOrMore (.except ")")),
    .char (.only ')')]

/-- The first loop over keys becomes one over values. -/
def forInToForOf (line : List Char) : List Char :=
  forInPattern.replaceFirst (fun found =>
    "for (".toList ++ found.group 1 ++ ' ' :: found.group 2 ++ " of ".toList ++ found.group 3 ++
      [')']) line

/-- The fix that belongs to a rule. -/
def fixer? (rule : String) : Option (List Char → List Char) :=
  if rule = "prefer-let-const" then some varToLet
  else if rule = "prefer-strict-equality" then some strictEquality
  else if rule = "no-console-statements" then some commentOut
  else if rule = "no-debugger-statements" then some commentOut
  else if rule = "no-magic-numbers" then some nameNumber
  else if rule = "no-for-in-on-arrays" then some forInToForOf
  else none

/-- The line mended for a rule, if the rule has a fix that changes it. -/
def suggest? (line : List Char) (rule : String) : Option (List Char) :=
  match fixer? rule with
  | none => none
  | some fixer => let fixed := fixer line; if fixed = line then none else some fixed

/-! ## Mending a text -/

/-- The line begins a comment. -/
def isComment (line : List Char) : Bool := Text.startsWith (Text.stripLeft line) ['/', '/']

/-- Lines, and how often one of them has been mended so far. -/
structure Progress where
  lines : List (List Char)
  applied : Nat

/-- Mends the line at an index for a rule. -/
def Progress.fixAt (p : Progress) (index : Nat) (rule : String) : Progress :=
  match p.lines[index]? with
  | none => p
  | some line =>
    if isComment line then p
    else match suggest? line rule with
      | none => p
      | some fixed => ⟨p.lines.set index fixed, p.applied + 1⟩

/-- Applies the fix for an issue. A line number that is no whole number is a fault unless it lies
outside the text. -/
def Progress.fix (p : Progress) (issue : Issue) : Except Fault Progress :=
  let fixLine (line : Int) : Progress :=
    if line < 1 then p else p.fixAt (line - 1).toNat issue.rule
  match issue.line with
  | .int line => .ok (fixLine line)
  | .bool b => .ok (fixLine (if b then 1 else 0))
  | .float x =>
    let index := x.sub (.finite 1)
    if Double.le (.finite 0) index && index.lt (.finite (p.lines.length : Nat)) then
      .error .wrongType
    else .ok p
  | _ => .error .wrongType

/-- The text with the fixes for the issues applied in order, and how many changed something. -/
def apply (text : List Char) (issues : List Issue) : Except Fault (List Char × Nat) := do
  let done ← issues.foldlM Progress.fix ⟨Text.lines text, 0⟩
  return (Text.unlines done.lines, done.applied)

end CodeReview.Fix
