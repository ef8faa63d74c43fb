/-
Style rules: declarations of the old kind, equality that converts, what was left in for debugging, and
numbers without a name.
-/
import CodeReview.Rule.Security

namespace CodeReview.Rule

open Pattern

/-- Numbers that need no name. -/
def allowedNumbers : List String := ["0", "1", "100", "1000", "24", "60", "365"]

def varPattern : Pattern :=
  sequence [.anchor .textStart, many .blank, literal "var", oneOrMore .blank]

/-- An equals or exclamation sign and an equals sign, with no sign of comparison before and no equals
sign after. The first sign is remembered under 1. -/
def looseEquality (remember : Pattern → Pattern) : Pattern :=
  sequence [.behind true 1 (.char (.among "=!<>")), remember (.char (.among "=!")),
    .char (.only '='), .ahead true (.char (.only '='))]

def consolePattern : Pattern :=
  call (sequence [wordEdge, literal "console.",
    oneOf [literal "log", literal "debug", literal "info", literal "warn", literal "error",
      literal "trace"]])

def debuggerPattern : Pattern :=
  sequence [.anchor .textStart, many .blank, literal "debugger", many .blank,
    optionalChar (.only ';'), many .blank, .anchor .lastLineEnd]

def styleRules : List Detector := [
  .ofPatterns "prefer-let-const" "style" "warning"
    "Use let or const instead of var to avoid hoisting issues." [varPattern] [],
  .ofPatterns "prefer-strict-equality" "style" "warning"
    "Use === (or !==) instead of == (or !=) to avoid type coercion." [looseEquality id] [],
  .ofPatterns "no-console-statements" "style" "info"
    "Remove console statements before production deployment." [consolePattern] [],
  .ofPatterns "no-debugger-statements" "style" "warning"
    "Remove debugger statements before production deployment." [debuggerPattern] [],
  .ofMagicNumbers "no-magic-numbers" "style" "info" allowedNumbers]

end CodeReview.Rule
