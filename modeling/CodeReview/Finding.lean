/-
Findings: what a rule has to say about a place in a text. Lines and columns are counted from 1.
-/
import CodeReview.Json.Basic

namespace CodeReview

/-- The groups that rules belong to. -/
inductive Category where
  | security
  | performance
  | style
  deriving DecidableEq, Repr

namespace Category

def name : Category → String
  | .security => "security"
  | .performance => "performance"
  | .style => "style"

/-- The categories in the order in which they are reported. -/
def all : List Category := [.security, .performance, .style]

def ofName? (name : String) : Option Category := all.find? (·.name == name)

end Category

/-- How bad a finding is. -/
inductive Severity where
  | error
  | warning
  | info
  deriving DecidableEq, Repr

namespace Severity

def name : Severity → String
  | .error => "error"
  | .warning => "warning"
  | .info => "info"

/-- The severities, worst first. -/
def all : List Severity := [.error, .warning, .info]

end Severity

/-- One finding of a rule. -/
structure Finding where
  line : Nat
  column : Nat
  message : String
  severity : String
  rule : String
  category : String
  deriving DecidableEq, Repr

/-- A finding as it is reported and kept. What comes from another program is not checked, so a place
or a message can be any value. -/
structure Issue where
  line : Json
  column : Json
  message : Json
  severity : String
  rule : String
  category : String
  deriving Repr

namespace Finding

def toIssue (f : Finding) : Issue :=
  ⟨.int f.line, .int f.column, .string f.message, f.severity, f.rule, f.category⟩

end Finding

namespace Issue

/-- The issue as an object, its members in a fixed order. -/
def toJson (i : Issue) : Json :=
  .object [("line", i.line), ("column", i.column), ("message", i.message),
    ("severity", .string i.severity), ("rule", .string i.rule), ("category", .string i.category)]

end Issue

end CodeReview
