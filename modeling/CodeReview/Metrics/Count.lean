/-
What the metrics count in a text: branches, operators and operands, repeated lines, and lines of code.
Nothing is parsed; comments and texts count like code.
-/
import CodeReview.Pattern.Search
import CodeReview.Text.Blank
import CodeReview.Text.Find
import CodeReview.Text.Lines

namespace CodeReview.Measure

open Pattern

/-- The words that branch. -/
def branchWords : List String :=
  ["if", "else", "for", "while", "do", "switch", "case", "catch", "try", "throw", "return"]

def branchWordPattern : Pattern :=
  sequence [wordEdge, oneOf (branchWords.map literal), wordEdge]

/-- The operators that branch: `&&`, `||`, and a question mark that neither stands beside another nor
before a point. -/
def branchOperatorPattern : Pattern :=
  oneOf [literal "&&", literal "||",
    sequence [.behind true 1 (.char (.only '?')), .char (.only '?'),
      .ahead true (.char (.among ".?"))]]

def operatorPattern : Pattern := .char (.among "+-*/=<>!&|^%~?:")

/-- The first character of an operand: an ASCII letter, the underscore or the dollar sign. -/
def operandStart : List SetItem := [.range 97 122, .range 65 90, .code 95, .code 36]

def operandPattern : Pattern :=
  sequence [wordEdge, .char (.set false .exact operandStart),
    many (.set false .exact (.range 48 57 :: operandStart)), wordEdge]

/-- One more than the words and operators that branch. -/
def complexity (text : List Char) : Nat :=
  1 + (branchWordPattern.all text).length + (branchOperatorPattern.all text).length

/-- How many operators and operands there are. -/
def vocabulary (text : List Char) : Nat :=
  (operatorPattern.all text).length + (operandPattern.all text).length

/-- Lines this short are not looked at for repetition. -/
def shortLine : Nat := 10

/-- The lines that may repeat each other, trimmed. -/
def candidates (text : List Char) : List (List Char) :=
  ((Text.lines text).map Text.strip).filter (shortLine < ·.length)

/-- How many of the lines repeat an earlier one. -/
def repeatedCount (lines : List (List Char)) : Nat := lines.length - lines.eraseDups.length

/-- The line holds code: something that does not begin a comment. -/
def isCode (line : List Char) : Bool :=
  let line := Text.strip line
  !line.isEmpty && !Text.startsWith line ['/', '/']

def linesOfCode (text : List Char) : Nat := ((Text.lines text).filter isCode).length

end CodeReview.Measure
