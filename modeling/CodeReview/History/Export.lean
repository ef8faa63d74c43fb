/-
A history in the forms in which it leaves the program: a table with a row for each review, the
timeline as JSON, and the timeline as a report.
-/
import CodeReview.History.Timeline
import CodeReview.Text.Csv

namespace CodeReview.History

variable {σ : Type}

/-- The timeline of the reviews inside the window. -/
def summarize (h : History σ) : Act σ Timeline := do
  Act.ofExcept (Timeline.ofReviews (← h.reviews))

/-- The names of the columns. -/
def columns : List String :=
  ["Date", "File", "Issues", "Complexity", "Maintainability", "Duplication"]

/-- The row of a review. -/
def rowOf (r : Review) : Except Fault (List (List Char)) := do
  let day ← Timeline.dayOf r
  return [day.toList, r.fileName.toList, Integer.text r.issueCount,
    Integer.text r.metrics.complexity, Integer.text r.metrics.maintainability,
    Integer.text r.metrics.duplication]

/-- The reviews as comma-separated values. -/
def exportCsv (h : History σ) : Act σ String := do
  let rows ← Act.ofExcept ((← h.reviews).mapM rowOf)
  return String.ofList (Text.Csv.write (columns.map String.toList :: rows))

/-- The timeline as JSON. Nothing keeps it from being written: it is not nested deep, and since the
averages of its days are floating-point numbers, it would take more reviews than there can be for a sum
with too many digits. -/
def exportJson (h : History σ) : Act σ String :=
  return String.ofList (← h.summarize).toJson.text

/-- The report on the timeline and the last review. -/
def exportReport (h : History σ) : Act σ String := do
  let reviews ← h.reviews
  Act.ofExcept ((← h.summarize).report reviews.head?)

end CodeReview.History
