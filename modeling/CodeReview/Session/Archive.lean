/-
The archive: the history as it is looked at, cleared and given away.
-/
import CodeReview.History.Export
import CodeReview.Session.Project

namespace CodeReview.Archive

/-- The history at the moment of the session. -/
def historyOf (project : Project) : Act Session (History Session) :=
  return project.history (← Act.get).now

/-- Where nothing is on record. -/
def noReviews : Act Session Unit :=
  Act.say (Shown.colored "yellow" "No review records found.")

/-! ## The last reviews -/

/-- The first `limit` items; where the limit is negative, all but the last that many. -/
def takeUpTo {α : Type} (limit : Int) (items : List α) : List α :=
  items.take (if limit < 0 then items.length - limit.natAbs else limit.natAbs)

/-- A timestamp to the minute, with a blank before the time. -/
def shownTime (timestamp : Json) : String :=
  String.ofList ((timestamp.display.toList.take 16).map fun c => if c = 'T' then ' ' else c)

def reviewRow (r : Review) : List String :=
  [shownTime r.timestamp, r.filePath, toString r.issueCount, toString r.metrics.complexity,
    toString r.metrics.maintainability, toString r.metrics.duplication ++ "%"]

/-- Shows the last reviews, or clears the history. -/
def browse (project : Project) (limit : Int) (clears : Bool) : Act Session Unit := do
  if !project.backend.isKept then Session.refuse .noStore
  let history ← historyOf project
  if clears then
    if !(← history.clear) then Session.refuse (.failed "Could not clear review history.")
    Act.say (Shown.colored "green" "Review history cleared.")
    return
  let reviews := takeUpTo limit (← history.reviews)
  if reviews.isEmpty then noReviews
  else Act.display (.table ⟨"Review History",
    ["Reviewed At", "File", "Issues", "Complexity", "MI", "Dup"], reviews.map reviewRow⟩)

/-! ## The trend -/

/-- The colour of a score. -/
def colorOf (score : Int) : String :=
  if 80 ≤ score then "green" else if 60 ≤ score then "yellow" else "red"

def trendRow (p : TrendPoint) : List String :=
  [p.date, toString p.issues, Shown.colored (colorOf p.score) (toString p.score)]

/-- Shows the timeline. -/
def timeline (project : Project) : Act Session Unit := do
  let t ← (← historyOf project).summarize
  if t.totalReviews = 0 then noReviews
  else
    Act.say "\n[bold]Code quality timeline[/bold]"
    Act.say ("  Total reviews:  " ++ toString t.totalReviews)
    Act.say ("  Total issues:   " ++ toString t.totalIssues)
    Act.say ("  Average score:  " ++
      Shown.colored (colorOf t.averageScore) (toString t.averageScore ++ "/100"))
    Act.display (.table
      ⟨"Daily Trend", ["Date", "Issues", "Quality Score"], t.trend.map trendRow⟩)

/-! ## Copies -/

inductive Form where
  | csv
  | json
  | report
  deriving DecidableEq, Repr

namespace Form

def name : Form → String
  | .csv => "csv"
  | .json => "json"
  | .report => "report"

def all : List Form := [.csv, .json, .report]

def ofName? (name : String) : Option Form := all.find? (·.name == name)

end Form

/-- The history in a form. -/
def copy (history : History Session) : Form → Act Session String
  | .csv => history.exportCsv
  | .json => history.exportJson
  | .report => history.exportReport

/-- A sign of the codes for terminals, between their start and their last letter. -/
def isCodeSign (c : Char) : Bool := c == ';' || c == '?' || ('0' ≤ c && c ≤ '9')

/-- What follows a code for terminals, if the text begins with one. -/
def afterCode? (text : List Char) : Option (List Char) :=
  match text with
  | '\x1b' :: '[' :: rest =>
    match rest.dropWhile isCodeSign with
    | c :: rest => if c.isAlpha then some rest else none
    | [] => none
  | _ => none

/-- The text without codes for terminals; `skipped` characters of a code are still to be passed
over. -/
def withoutCodes (skipped : Nat) : List Char → List Char
  | [] => []
  | c :: rest =>
    match skipped with
    | skipped + 1 => withoutCodes skipped rest
    | 0 => match afterCode? (c :: rest) with
      | some after => withoutCodes (rest.length - after.length) rest
      | none => c :: withoutCodes 0 rest

/-- Writes the history in a form to a file or, without one, to the output. -/
def deliver (project : Project) (form : Form) (output : Option String) : Act Session Unit := do
  let content ← copy (← historyOf project) form
  match output with
  | none => Act.print (String.ofList (withoutCodes 0 content.toList) ++ "\n")
  | some output =>
    match ← Act.attempt
      (Session.onDisk (Disk.writeText (Path.ofString output).text content.toList)) with
    | .ok () =>
      Act.say (Shown.colored "green" ("Exported " ++ form.name ++ " to " ++ output))
    | .error fault =>
      if fault.isStorageFault then
        Session.refuse (.failed ("Could not write " ++ output ++ ": " ++ fault.detail))
      else Act.fail fault

end CodeReview.Archive
