/-
Scan results: what came of scanning one file. A file that is left out has no issues and is counted
nowhere; one that is too large has a single issue and no metrics.
-/
import CodeReview.Finding
import CodeReview.Metrics.Quality

namespace CodeReview

structure ScanResult where
  file : String
  issues : List Issue := []
  metrics : Metrics := .zero
  excluded : Bool := false
  oversized : Bool := false
  deriving Repr

namespace ScanResult

def issueCount (r : ScanResult) : Nat := r.issues.length

/-- The number of issues of a severity. -/
def countOf (r : ScanResult) (severity : Severity) : Nat :=
  r.issues.countP (·.severity == severity.name)

/-- The result of a file that is left out. -/
def leftOut (file : String) : ScanResult := { file, excluded := true }

end ScanResult

end CodeReview
