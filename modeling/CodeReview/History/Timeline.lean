/-
Timelines: the reviews of a history taken together, day by day in universal time. A day's issues and
scores are averages, rounded to whole numbers, a half going up.
-/
import CodeReview.History.Basic
import CodeReview.Json.Writer
import CodeReview.Number.Power

namespace CodeReview

/-- What a day's reviews come to. -/
structure TrendPoint where
  date : String
  issues : Int
  score : Int
  deriving DecidableEq, Repr

structure Timeline where
  totalReviews : Nat := 0
  totalIssues : Int := 0
  averageScore : Int := 0
  trend : List TrendPoint := []
  deriving DecidableEq, Repr

namespace Timeline

/-- The date of a review in universal time. -/
def dayOf (r : Review) : Except Fault String :=
  match Review.momentOf? r.timestamp with
  | some moment => return String.ofList (← moment.utcDate).text
  | none => .error .noOperation

/-- The average of some integers, of which there is at least one. -/
def averageOf (values : List Int) : Except Fault Int := do
  roundHalfUp (← (Amount.int (sumInt values)).divideBy values.length)

/-- A review's part in the trend. -/
structure Sample where
  date : String
  issues : Int
  score : Int

/-- The dates of the samples, each once, in order. -/
def dates (samples : List Sample) : List String :=
  (samples.map (·.date)).eraseDups.mergeSort fun a b => a ≤ b

/-- What the samples of a date come to. -/
def pointOf (samples : List Sample) (date : String) : Except Fault TrendPoint := do
  let onDate := samples.filter (·.date = date)
  let issues ← averageOf (onDate.map (·.issues))
  let score ← averageOf (onDate.map (·.score))
  return ⟨date, issues, score⟩

/-- The timeline of some reviews. -/
def ofReviews (reviews : List Review) : Except Fault Timeline :=
  if reviews.isEmpty then .ok {}
  else do
    let scores ← reviews.mapM Review.score
    let days ← reviews.mapM dayOf
    let samples := (reviews.zip (days.zip scores)).map fun (r, day, score) =>
      (⟨day, r.issueCount, score⟩ : Sample)
    let trend ← (dates samples).mapM (pointOf samples)
    return {
      totalReviews := reviews.length
      totalIssues := sumInt (reviews.map (·.issueCount))
      averageScore := ← averageOf scores
      trend }

/-! ## The report -/

/-- What the report says about the last review. -/
def latestLines (latest : Review) : Except Fault (List String) := do
  return ["\n## Latest Review",
    "- **File**: `" ++ latest.filePath ++ "`",
    "- **Issues**: " ++ toString latest.issueCount,
    "- **Complexity**: " ++ toString latest.metrics.complexity,
    "- **Maintainability**: " ++ toString latest.metrics.maintainability ++ "/100",
    "- **Duplication**: " ++ toString latest.metrics.duplication ++ "%",
    "- **Quality Score**: " ++ toString (← latest.score) ++ "/100"]

def trendRow (p : TrendPoint) : String :=
  "| " ++ p.date ++ " | " ++ toString p.issues ++ " | " ++ toString p.score ++ " |"

/-- The report on a timeline and on the last review, if there is one. -/
def report (t : Timeline) (latest : Option Review) : Except Fault String := do
  let latest ← match latest with
    | some review => latestLines review
    | none => pure []
  return "\n".intercalate ([
    "# Code Quality Timeline\n",
    "## Summary",
    "- **Total Reviews**: " ++ toString t.totalReviews,
    "- **Total Issues**: " ++ toString t.totalIssues,
    "- **Average Quality Score**: " ++ toString t.averageScore ++ "/100"] ++ latest ++
    (if t.trend.isEmpty then []
    else ["\n## Daily Trend", "| Date | Issues | Quality Score |",
      "|------|:------:|:-------------:|"] ++ t.trend.map trendRow))

/-! ## As a value -/

def pointJson (p : TrendPoint) : Json :=
  .object [("date", .string p.date), ("issues", .int p.issues), ("quality_score", .int p.score)]

def toJson (t : Timeline) : Json :=
  .object [("total_reviews", .int t.totalReviews), ("total_issues", .int t.totalIssues),
    ("average_quality_score", .int t.averageScore), ("trend_data", .array (t.trend.map pointJson))]

end Timeline

end CodeReview
