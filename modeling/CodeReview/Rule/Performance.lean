/-
Performance rules. What happens in a loop is seen only where the loop stands on one line.
-/
import CodeReview.Rule.Security

namespace CodeReview.Rule

open Pattern

/-- `for` and its opening parenthesis. -/
def forOpening : Pattern := call (literal "for")

/-- The beginning of a loop over the keys of an object, up to `in`. -/
def forInOpening (keyword name : Pattern → Pattern) : Pattern :=
  sequence [forOpening, many .blank,
    keyword (oneOf [literal "var", literal "let", literal "const"]), oneOrMore .blank,
    name (oneOrMore .word), oneOrMore .blank, literal "in", oneOrMore .blank]

def forInPattern : Pattern :=
  sequence [forInOpening id id, many .inLine, .char (.only '[')]

def synchronousRequestPatterns : List Pattern := [
  sequence [literal "XMLHttpRequest", many (.except ")"), literal "open", many (.except ")"),
    literal "false"],
  sequence [literal ".open", many .blank, .char (.only '('), many (.except ")"),
    .char (.only ','), many .blank, literal "false", many .blank, .char (.only ')')]]

/-- A loop with its head and the opening brace of its body. -/
def loopOpening : Pattern :=
  sequence [call (oneOf [literal "for", literal "while"]), many (.except ")"), .char (.only ')'),
    many .blank, .char (.only '\x7b')]

/-- A loop on one line with something in its body. -/
def loopWith (inside : Pattern) : Pattern :=
  sequence [loopOpening, many (.except "\x7d"), inside, many (.except "\x7d"),
    .char (.only '\x7d')]

def documentQuery : Pattern :=
  oneOf [.seq (literal "querySelector") (optional (literal "All")), literal "getElementById",
    .seq (literal "getElementsBy") (oneOrMore .word)]

def lengthInLoopPattern : Pattern :=
  sequence [forOpening, many (.except ")"), literal ".length", many (.except ")"),
    .char (.only ')')]

/-- A property of an element's style is assigned. -/
def styleAssignment : Pattern :=
  sequence [literal ".style.", many (.except "="), .char (.only '=')]

/-- Lines longer than this may hold a large literal. -/
def largeLiteralLength : Nat := 200

def performanceRules : List Detector := [
  .ofPatterns "no-for-in-on-arrays" "performance" "warning"
    "Using for...in on arrays is inefficient. Use for...of or forEach instead."
    [forInPattern] [],
  .ofPatterns "no-document-write" "performance" "warning"
    "document.write() blocks rendering and is deprecated. Use DOM manipulation instead."
    [call (literal "document.write")] [],
  .ofPatterns "no-sync-xhr" "performance" "error"
    "Synchronous XMLHttpRequest blocks the UI. Use async requests or the fetch API."
    synchronousRequestPatterns [],
  .ofPatterns "no-dom-queries-in-loops" "performance" "warning"
    "DOM queries inside loops are inefficient. Cache the element outside the loop."
    [loopWith documentQuery] [],
  .ofPatterns "cache-array-length" "performance" "info"
    "Accessing array.length in the loop condition is inefficient. Cache the length."
    [lengthInLoopPattern] [],
  .ofPatterns "check-event-listener-cleanup" "performance" "warning"
    "Event listeners should be removed to prevent memory leaks."
    [call (literal ".addEventListener")] ["removeEventListener"],
  .ofPatterns "batch-dom-manipulation" "performance" "info"
    "Multiple style changes cause reflows. Use cssText or classes instead."
    [sequence [styleAssignment, many .inLine, styleAssignment]] [],
  .ofPatterns "no-string-concat-in-loops" "performance" "warning"
    "String concatenation in loops is inefficient. Use array.join() or template literals."
    [loopWith (.char (.only '+'))] [],
  .ofLargeLiterals "avoid-large-object-literals" "performance" "info"
    "Large object literals can impact performance. Consider using a factory function."
    largeLiteralLength]

end CodeReview.Rule
