/-
Security rules: secrets in the code, queries glued together from texts, markup put into a page
unchecked, and code made from text.
-/
import CodeReview.Rule.Detector

namespace CodeReview.Rule

open Pattern

/-- A text between quotes is assigned. -/
def assignedText : Pattern :=
  sequence [many .blank, .char (.among ":="), many .blank, .char (.among "\"'"),
    oneOrMore (.except "\"'"), .char (.among "\"'")]

/-- One of the names, in any case, is given a text between quotes. -/
def secretNamed (names : List Pattern) : Pattern :=
  (Pattern.seq (oneOf names) assignedText).ignoringCase

/-- Two words joined by an underscore, a hyphen or nothing. -/
def compound (first second : String) : Pattern :=
  sequence [literal first, optionalChar (.among "_-"), literal second]

def secretPatterns : List Pattern := [
  secretNamed [literal "password", literal "passwd", literal "pwd"],
  secretNamed [compound "api" "key", literal "apikey"],
  secretNamed [literal "secret", literal "token", compound "auth" "token"],
  secretNamed [compound "private" "key", literal "privatekey"],
  secretNamed [compound "access" "key", literal "accesskey"]]

/-- The parts of a statement with blanks and anything else between them. -/
def clauses : List Pattern → Pattern
  | [] => .empty
  | [part] => part
  | part :: parts =>
    sequence [part, oneOrMore .blank, many .inLine, oneOrMore .blank, clauses parts]

/-- Anything, a plus sign, and anything. -/
def glued : Pattern := sequence [many .inLine, .char (.only '+'), many .inLine]

def queryPatterns : List Pattern := [
  sequence [clauses [literal "SELECT", literal "FROM", literal "WHERE"], oneOrMore .blank, glued],
  sequence [
    clauses [sequence [literal "INSERT", oneOrMore .blank, literal "INTO"], literal "VALUES"],
    many .blank, .char (.only '('), glued, .char (.only ')')],
  sequence [clauses [literal "UPDATE", literal "SET"], oneOrMore .blank, glued,
    oneOrMore .blank, literal "WHERE"],
  sequence [clauses [sequence [literal "DELETE", oneOrMore .blank, literal "FROM"],
    literal "WHERE"], oneOrMore .blank, glued]].map ignoringCase

/-- A single equals sign after blanks. -/
def plainAssignment : Pattern :=
  sequence [many .blank, .char (.only '='), .ahead true (.char (.only '='))]

/-- The text, blanks, and an opening parenthesis. -/
def call (name : Pattern) : Pattern := sequence [name, many .blank, .char (.only '(')]

def markupPatterns : List Pattern := [
  .seq (literal ".innerHTML") plainAssignment,
  .seq (literal ".outerHTML") plainAssignment,
  call (literal "document.write")].map ignoringCase

def evaluationPatterns : List Pattern := [
  call (.seq wordEdge (literal "eval")),
  call (sequence [wordEdge, literal "new", oneOrMore .blank, literal "Function"])]

def securityRules : List Detector := [
  .ofPatterns "no-hardcoded-secrets" "security" "error"
    "Hardcoded secret detected. Use environment variables instead." secretPatterns [],
  .ofPatterns "no-sql-injection" "security" "error"
    "Potential SQL injection vulnerability. Use parameterized queries." queryPatterns [],
  .ofPatterns "no-xss-vulnerability" "security" "warning"
    "Potential XSS vulnerability. Sanitize user input before rendering." markupPatterns [],
  .ofPatterns "no-eval" "security" "error"
    "Dynamic code execution detected. eval() and new Function() should be avoided."
    evaluationPatterns []]

end CodeReview.Rule
