/-
Scanners: a configuration with the rules and the linter that it asks for. A text is admitted first, by
its file's path and then by its size; only then do the linter, the rules and the metrics see it.
-/
import CodeReview.Config.Exclusion
import CodeReview.Linter
import CodeReview.Rule.Catalog
import CodeReview.Scan.Result

namespace CodeReview

/-- The categories that a configuration enables: all those that it does not switch off. -/
def Config.enabledCategories (c : Config) : Except Fault (List Category) :=
  match (c.get? "rules").getD (.map standardRules) with
  | .map rules => .ok (Category.all.filter fun category =>
      !((Value.lookup (.string category.name) rules).getD (.bool true)).isEmpty)
  | _ => .error .noOperation

/-- The size in units of 1024 bytes. -/
def kilobytes (size : Amount) : Except Fault Double := size.divideBy 1024

/-- A size in bytes is above a limit in units of 1024. -/
def isTooLarge (size : Amount) (limit : Value) : Except Fault Bool := do
  let size ← kilobytes size
  match limit.amount? with
  | some limit => return limit.lt (.float size)
  | none => throw .wrongType

structure Scanner where
  config : Config
  catalog : Catalog
  linter : Option Linter
  /-- Where paths begin that do not begin at the root. -/
  workingDirectory : String

namespace Scanner

/-- The scanner that a configuration describes. -/
def ofConfig {σ : Type} (config : Config) (workingDirectory : String) : Act σ Scanner := do
  let catalog ← Catalog.standard.withCustom ((config.get? "custom_rules").getD (.list []))
  let linter ← Act.ofExcept (Linter.ofSettings? (config.get "linter"))
  return ⟨config, catalog, linter, workingDirectory⟩

/-! ## Admission -/

/-- The configuration leaves out a file. -/
def leavesOut (s : Scanner) (file : String) : Except Fault Bool :=
  Exclusion.check s.workingDirectory
    ((s.config.get? "exclude_patterns").getD (Config.standard.get "exclude_patterns"))
    ((s.config.get? "root").getD (Config.standard.get "root")) file

/-- The configuration takes a size to be too large. -/
def isOversized (s : Scanner) (size : Amount) : Except Fault Bool :=
  isTooLarge size ((s.config.get? "max_file_size").getD (Config.standard.get "max_file_size"))

/-- What is reported of a file that is too large. -/
def oversizedResult (file : String) (size : Amount) : Except Fault ScanResult := do
  let shown ← roundHalfUp (← kilobytes size)
  let finding : Finding := {
    line := 1
    column := 1
    message := "File is too large (" ++ toString shown ++ "KB). Skipping analysis."
    severity := Severity.info.name
    rule := "file-too-large"
    category := Category.performance.name }
  return { file, issues := [finding.toIssue], oversized := true }

/-- The configuration switches scanning off. -/
def isOff (s : Scanner) : Bool := ((s.config.get? "enabled").getD (.bool true)).isEmpty

/-! ## Scanning -/

/-- What the linter finds in a text, if there is one and it is to be asked. -/
def lintIssues (s : Scanner) (text file : String) (useLinter : Bool) : Act Shell (List Issue) :=
  match s.linter with
  | some linter => if useLinter then linter.lint text file else pure []
  | none => pure []

/-- The issues in an admitted text, those of the linter first, and its metrics. -/
def examine (s : Scanner) (text file : String) (useLinter : Bool) : Act Shell ScanResult := do
  let fromLinter ← s.lintIssues text file useLinter
  let enabled ← Act.ofExcept s.config.enabledCategories
  let findings ← s.catalog.analyze enabled.contains file text.toList
  let metrics ← Act.ofExcept (Metrics.ofText text.toList)
  return { file, issues := fromLinter ++ findings.map Finding.toIssue, metrics }

/-- Scans a text under the path of its file. Where no size is given, it is that of the text. -/
def scan (s : Scanner) (text file : String) (size : Option Amount) (useLinter : Bool) :
    Act Shell ScanResult := do
  if s.isOff then
    Act.note (.skippedExcluded file)
    return .leftOut file
  if ← Act.ofExcept (s.leavesOut file) then
    Act.note (.skippedExcluded file)
    return .leftOut file
  let size := size.getD (.int (Text.encodedSize text.toList))
  if ← Act.ofExcept (s.isOversized size) then
    Act.ofExcept (oversizedResult file size)
  else s.examine text file useLinter

end Scanner

end CodeReview
