/-
External linters: programs that read a text and write what they found as JSON. A linter that does not
run, or whose report is no JSON text, is a notice and no findings; a report of another shape than
expected is a fault.
-/
import CodeReview.Command
import CodeReview.Finding
import CodeReview.Json.Reader
import CodeReview.Text.Lines

namespace CodeReview

structure Linter where
  command : List Value := [.string "eslint"]
  timeout : Value := .int 30
  deriving Repr

namespace Linter

/-! ## Categories and severities -/

/-- The categories of single rules. -/
def ruleCategories : List (String × Category) := [
  ("no-eval", .security),
  ("no-implied-eval", .security),
  ("no-new-func", .security),
  ("no-script-url", .security),
  ("no-unsanitized/property", .security),
  ("no-unsanitized/method", .security),
  ("react/no-danger", .security),
  ("no-for-in", .performance),
  ("guard-for-in", .performance),
  ("no-await-in-loop", .performance),
  ("no-document-write", .performance)]

/-- The categories of families of rules. -/
def familyCategories : List (String × Category) := [
  ("security", .security),
  ("no-unsanitized", .security),
  ("xss", .security),
  ("performance", .performance),
  ("perf", .performance)]

/-- The family of a rule: what stands before the first slash, without the signs it begins with. -/
def family? (rule : String) : Option String :=
  if rule.toList.contains '/' then
    some (String.ofList ((Text.cutAtFirst '/' rule.toList).1.dropWhile (· = '@')))
  else none

/-- The category of a rule: its own, else that of its family, else style. -/
def categoryOf (rule : String) : Category :=
  match ruleCategories.lookup rule with
  | some category => category
  | none => ((family? rule).bind fun family => familyCategories.lookup family).getD .style

/-- The level 2 is an error, any other a warning. -/
def severityOf (level : Json) : Severity :=
  match level with
  | .int i => if i = 2 then .error else .warning
  | .float x => if x.same (.finite 2) then .error else .warning
  | _ => .warning

/-! ## Reports -/

/-- The member of an object, unless it is absent or counts as absent. -/
def given (members : List (String × Json)) (key : String) (default : Json) : Json :=
  match Json.lookup key members with
  | some value => if value.isEmpty then default else value
  | none => default

/-- The issue that a message is about. -/
def issueOf (message : Json) : Except Fault Issue :=
  match message with
  | .object members =>
    match given members "ruleId" (.string "unknown") with
    | .string rule => .ok {
        line := given members "line" (.int 1)
        column := given members "column" (.int 1)
        message := (Json.lookup "message" members).getD (.string "")
        severity := (severityOf ((Json.lookup "severity" members).getD .null)).name
        rule
        category := (categoryOf rule).name }
    | _ => .error .wrongType
  | _ => .error .noOperation

/-- The issues of the messages about one file. -/
def issuesOf (messages : Json) : Except Fault (List Issue) :=
  match messages with
  | .array items => items.mapM issueOf
  | .object [] => .ok []
  | .object _ => .error .noOperation
  | .string s => if s.isEmpty then .ok [] else .error .noOperation
  | _ => .error .wrongType

/-- The issues in what a report says about one file; what is no object says nothing. -/
def fileIssues (report : Json) : Except Fault (List Issue) :=
  match report with
  | .object members =>
    match Json.lookup "messages" members with
    | some messages => issuesOf messages
    | none => .ok []
  | _ => .ok []

/-- The issues of a report. -/
def reportIssues (report : Json) : Except Fault (List Issue) :=
  match report with
  | .array files => return (← files.mapM fileIssues).flatten
  | _ => .ok []

/-- The issues of a report as it was written; no text at all is an empty report. -/
def readReport {σ : Type} (output : String) : Act σ (List Issue) :=
  match Json.read (if output.isEmpty then "[]".toList else output.toList) with
  | .ok report => Act.ofExcept (reportIssues report)
  | .error .malformed => do Act.note .linterUnreadable; return []
  | .error .integerTooLong =>
    Act.fail (.invalid "Exceeds the limit for integer string conversion")
  | .error .nestedTooDeep => Act.fail .nestedTooDeep

/-! ## Running -/

/-- The command that lints a text under the name of a file. -/
def commandFor (linter : Linter) (text file : String) : Command where
  arguments := linter.command ++
    ["--stdin", "--stdin-filename", file, "--format", "json"].map .string
  input := some text
  timeout := linter.timeout

/-- The issues that the linter finds in a text. The statuses 0 and 1 say that it ran to its end. -/
def lint (linter : Linter) (text file : String) : Act Shell (List Issue) := do
  match ← Shell.run (linter.commandFor text file) with
  | .exited status output _ =>
    if status = 0 || status = 1 then readReport (output.getD "")
    else do
      Act.note (.linterFailed status file)
      return []
  | _ => do
    Act.note (.linterNotRun file)
    return []

/-- The linter that settings describe, if they enable one. Settings that count as absent enable
none. -/
def ofSettings? (settings : Value) : Except Fault (Option Linter) :=
  if settings.isEmpty then .ok none
  else match settings with
    | .map entries =>
      let setting (key : String) : Option Value := Value.lookup (.string key) entries
      if ((setting "enabled").getD .null).isEmpty then .ok none
      else
        let standard : Linter := {}
        match (setting "command").map Value.elements? with
        | none => .ok (some { standard with timeout := (setting "timeout").getD standard.timeout })
        | some none => .error .wrongType
        | some (some command) =>
          .ok (some ⟨command, (setting "timeout").getD standard.timeout⟩)
    | _ => .error .noOperation

end Linter

end CodeReview
