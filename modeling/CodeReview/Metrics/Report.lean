/-
The report on one text's metrics.
-/
import CodeReview.Metrics.Quality

namespace CodeReview.Metrics

def complexityRating (complexity : Int) : String :=
  if complexity ≤ 5 then "Low (Good)"
  else if complexity ≤ 10 then "Moderate"
  else if complexity ≤ 20 then "High"
  else "Very High (Needs Refactoring)"

def maintainabilityRating (maintainability : Int) : String :=
  if 80 ≤ maintainability then "Excellent"
  else if 60 ≤ maintainability then "Good"
  else if 40 ≤ maintainability then "Fair"
  else "Poor (Needs Improvement)"

def duplicationRating (duplication : Int) : String :=
  if duplication ≤ 5 then "Low (Good)"
  else if duplication ≤ 15 then "Moderate"
  else if duplication ≤ 30 then "High"
  else "Very High (Needs Refactoring)"

/-- What could be done about the metrics. -/
def recommendations (m : Metrics) : List String :=
  (if 10 < m.complexity then ["- Consider breaking down complex functions into smaller ones"]
    else []) ++
  (if m.maintainability < 50 then ["- Improve code readability and reduce complexity"] else []) ++
  (if 20 < m.duplication then ["- Extract common code into reusable functions"] else [])

/-- The lines of a report, the empty ones at the end of a line feed. -/
def report (m : Metrics) (title : String) : String :=
  let advice := m.recommendations
  "\n".intercalate ([
    "# " ++ title ++ "\n",
    "## Overall Quality Score: " ++ toString m.qualityScore ++ "/100\n",
    "### Metrics Breakdown",
    "- **Cyclomatic Complexity**: " ++ toString m.complexity ++
      " (" ++ complexityRating m.complexity ++ ")",
    "- **Maintainability Index**: " ++ toString m.maintainability ++
      "/100 (" ++ maintainabilityRating m.maintainability ++ ")",
    "- **Code Duplication**: " ++ toString m.duplication ++
      "% (" ++ duplicationRating m.duplication ++ ")",
    "- **Lines of Code**: " ++ toString m.linesOfCode ++ "\n"] ++
    (if advice.isEmpty then [] else "### Recommendations" :: advice))

end CodeReview.Metrics
