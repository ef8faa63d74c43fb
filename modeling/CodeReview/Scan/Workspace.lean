/-
Workspaces: the results of many files taken together. Files that are too large count as files and with
their issue, but the averages leave them out, for they have no metrics.
-/
import CodeReview.Number.Power
import CodeReview.Path
import CodeReview.Scan.Result

namespace CodeReview

structure Workspace where
  results : List ScanResult
  /-- Averages and, for the lines of code, the sum. -/
  metrics : Metrics
  milliseconds : Int
  deriving Repr

namespace Workspace

/-- The metrics that are averaged. -/
def measured (results : List ScanResult) : List Metrics :=
  (results.filter (!·.oversized)).map (·.metrics)

/-- The average of one metric. -/
def average (metrics : List Metrics) (part : Metrics → Int) : Except Fault Double :=
  (Amount.int (sumInt (metrics.map part))).divideBy metrics.length

/-- The averages, rounded, and the quality score of the averages before rounding. -/
def combine (metrics : List Metrics) : Except Fault Metrics :=
  if metrics.isEmpty then .ok .zero
  else do
    let complexity ← average metrics (·.complexity)
    let maintainability ← average metrics (·.maintainability)
    let duplication ← average metrics (·.duplication)
    return {
      complexity := ← roundHalfUp complexity
      maintainability := ← roundHalfUp maintainability
      duplication := ← roundHalfUp duplication
      linesOfCode := sumInt (metrics.map (·.linesOfCode))
      qualityScore := ← Measure.qualityScore (.float complexity) (.float maintainability)
        (.float duplication) }

def ofResults (results : List ScanResult) (milliseconds : Int) : Except Fault Workspace :=
  return ⟨results, ← combine (measured results), milliseconds⟩

def fileCount (w : Workspace) : Nat := w.results.length

def issueCount (w : Workspace) : Nat := sumNat (w.results.map (·.issueCount))

/-! ## The report -/

/-- A count in a table; zero is a dash. -/
def cell (count : Nat) : String := if count = 0 then "—" else toString count

/-- The row of a file. -/
def row (r : ScanResult) : String :=
  "| `" ++ Path.baseName r.file ++ "` | " ++ cell (r.countOf .error) ++ " | " ++
    cell (r.countOf .warning) ++ " | " ++ cell (r.countOf .info) ++ " | " ++
    toString r.issueCount ++ " |"

/-- The files with issues, those with the most first. -/
def flagged (w : Workspace) : List ScanResult :=
  (w.results.filter (!·.issues.isEmpty)).mergeSort fun a b => b.issueCount ≤ a.issueCount

def clean (w : Workspace) : List ScanResult := w.results.filter (·.issues.isEmpty)

/-- The report on a workspace. -/
def report (w : Workspace) : String :=
  let m := w.metrics
  "\n".intercalate ([
    "# Workspace Scan Report\n",
    "**Scan completed in " ++ toString w.milliseconds ++ "ms**\n",
    "## Summary",
    "- **Files Scanned**: " ++ toString w.fileCount,
    "- **Total Issues**: " ++ toString w.issueCount,
    "- **Overall Quality Score**: " ++ toString m.qualityScore ++ "/100\n",
    "## Quality Metrics",
    "- **Average Complexity**: " ++ toString m.complexity,
    "- **Average Maintainability**: " ++ toString m.maintainability ++ "/100",
    "- **Average Duplication**: " ++ toString m.duplication ++ "%",
    "- **Total Lines of Code**: " ++ toString m.linesOfCode] ++
    (if w.flagged.isEmpty then []
    else
      ["\n## Files with Issues", "| File | Errors | Warnings | Info | Total |",
        "|------|:------:|:--------:|:----:|:-----:|"] ++ w.flagged.map row) ++
    (if w.clean.isEmpty then []
    else ["\n_Clean: " ++ toString w.clean.length ++ " file(s) with no issues._"]))

end Workspace

end CodeReview
