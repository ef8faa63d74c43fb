/-
Checkups: a look at one file, which is fixed first if that is asked for and goes on record, and a look
at all files below a directory.
-/
import CodeReview.Fix
import CodeReview.Metrics.Report
import CodeReview.Scan.Discovery
import CodeReview.Scan.Files
import CodeReview.Session.Project

namespace CodeReview.Checkup

/-- How a file is to be looked at. -/
structure Request where
  file : String
  /-- The review goes on record. -/
  records : Bool := true
  /-- An editor asks, on saving the file. -/
  onSave : Bool := false
  /-- The file is fixed first. -/
  fixes : Bool := false
  deriving Repr

/-! ## Findings -/

/-- The colour of a severity. -/
def colorOf (severity : String) : String :=
  if severity = Severity.error.name then "red"
  else if severity = Severity.warning.name then "yellow"
  else if severity = Severity.info.name then "blue"
  else "white"

/-- The cell of a message. Only texts can be shown; null is an empty cell. -/
def messageCell (message : Json) : Except Fault String :=
  match message with
  | .string text => .ok text
  | .null => .ok ""
  | _ => .error .unshowable

def rowOf (issue : Issue) : Except Fault (List String) :=
  return [issue.line.display, issue.column.display,
    Shown.colored (colorOf issue.severity) issue.severity, issue.rule,
    ← messageCell issue.message]

/-- The findings of a scan. -/
def findings (result : ScanResult) : Except Fault Shown :=
  if result.issues.isEmpty then
    return .line (Shown.colored "green" ("No issues found in " ++ result.file ++ "."))
  else
    return .table ⟨"Findings — " ++ result.file, ["Line", "Col", "Severity", "Rule", "Message"],
      ← result.issues.mapM rowOf⟩

/-! ## One file -/

/-- The text of a file and its size. -/
def read (disk : Disk) (file : String) : Except Fault (List Char × Nat) := do
  let path := (Path.ofString file).text
  return (← disk.readText path, ← disk.size path)

/-- The fault of a file that is there but cannot be read is told to the caller. -/
def readFault (file : String) (fault : Fault) : Fault :=
  let told := Fault.usage (.failed ("Could not read " ++ file ++ ": " ++ fault.detail))
  match fault with
  | .undecodable _ => told
  | fault => if fault.isStorageFault then told else fault

/-- What is reported of a file after a scan: the scan of its text or, where fixes have changed the
text, of the text with the fixes, which is written. -/
def fix (scanner : Scanner) (file : String) (text : List Char) (result : ScanResult) :
    Act Session ScanResult := do
  let (fixed, count) ← Act.ofExcept (Fix.apply text result.issues)
  if count = 0 then
    Act.say (Shown.colored "dim" "No quick fixes available.")
    return result
  Session.onDisk (Disk.writeText (Path.ofString file).text fixed)
  Act.say (Shown.colored "green"
    ("Applied " ++ toString count ++ " quick fix(es) to " ++ file ++ "."))
  Session.inShell (scanner.scan (String.ofList fixed) file none true)

/-- Looks at a file. -/
def review (project : Project) (request : Request) : Act Session Unit := do
  let onSave := (project.config.get? "auto_analyze_on_save").getD (.bool true)
  if request.onSave && onSave.isEmpty then return
  let session ← Act.get
  let file := request.file
  let (text, size) ← Act.ofExcept ((read session.disk file).mapError (readFault file))
  let scanner ← Scanner.ofConfig project.config session.disk.workingPath
  let first ← Session.inShell
    (scanner.scan (String.ofList text) file (some (.int size)) true)
  if first.excluded then
    Act.say (Shown.colored "dim"
      (file ++ " is excluded by configuration — nothing to review."))
    return
  let result ←
    if request.fixes && !first.oversized then fix scanner file text first else pure first
  Act.display (← Act.ofExcept (findings result))
  if !result.oversized then
    Act.display (.report (result.metrics.report
      ("Quality Report — " ++ (Path.ofString file).name)))
  if request.records then
    let _ ← (project.history session.now).record result

/-! ## All files -/

/-- Looks at all source files below a directory; the external linter only sees them if the look is a
detailed one. -/
def scan (project : Project) (root : String) (detailed : Bool) : Act Session Unit := do
  let disk := (← Act.get).disk
  let files ← Act.ofExcept (Discovery.sources disk root (project.config.get "exclude_patterns"))
  if files.isEmpty then
    Act.say (Shown.colored "yellow" "No source files found.")
    return
  Act.display (.status ("Scanning " ++ toString files.length ++ " file(s)..."))
  let scanner ← Scanner.ofConfig project.config disk.workingPath
  let workspace ← Session.inShell (scanner.scanAll disk files detailed)
  Act.display (.report workspace.report)

end CodeReview.Checkup
