/-
Reviews: what the history remembers of the scan of a file. A review is kept as a JSON object and read
back from any object, whatever its members hold: a member that makes no sense stands for its default.
-/
import CodeReview.Finding
import CodeReview.Json.Display
import CodeReview.Metrics.Quality
import CodeReview.Path
import CodeReview.Scan.Result
import CodeReview.Time.Iso

namespace CodeReview

/-- The metrics that are remembered. -/
structure Snapshot where
  complexity : Int := 0
  maintainability : Int := 0
  duplication : Int := 0
  deriving DecidableEq, Repr

structure Review where
  /-- When the scan was recorded. -/
  timestamp : Json
  fileName : String
  filePath : String
  issueCount : Int
  issues : List Issue
  metrics : Snapshot
  deriving Repr

namespace Review

/-! ## Moments -/

/-- The moment that a timestamp names, if it names one. A `Z` stands for no offset from universal time,
and so does no offset at all. -/
def momentOf? (timestamp : Json) : Option Moment :=
  match timestamp with
  | .string s =>
    (Moment.read? (s.toList.flatMap fun c => if c = 'Z' then "+00:00".toList else [c])).map
      Moment.orUtc
  | _ => none

/-! ## Making -/

/-- The name of a file: what follows the last slash or backslash of its path. -/
def nameOf (path : String) : String :=
  String.ofList (Text.afterLast '/' (Path.withSlashes path.toList))

/-- The review of a scan at a moment. -/
def ofScan (now : Moment) (scan : ScanResult) : Review where
  timestamp := .string (String.ofList now.text)
  fileName := nameOf scan.file
  filePath := scan.file
  issueCount := scan.issueCount
  issues := scan.issues
  metrics := ⟨scan.metrics.complexity, scan.metrics.maintainability, scan.metrics.duplication⟩

/-- The score of the remembered metrics. -/
def score (r : Review) : Except Fault Int :=
  Measure.qualityScore (.int r.metrics.complexity) (.int r.metrics.maintainability)
    (.int r.metrics.duplication)

/-! ## Writing -/

def snapshotMembers (s : Snapshot) : List (String × Json) :=
  [("complexity", .int s.complexity), ("maintainability", .int s.maintainability),
    ("duplication", .int s.duplication)]

def members (r : Review) : List (String × Json) :=
  [("timestamp", r.timestamp), ("file_name", .string r.fileName),
    ("file_path", .string r.filePath), ("issue_count", .int r.issueCount),
    ("issues", .array (r.issues.map Issue.toJson)),
    ("metrics", .object (snapshotMembers r.metrics))]

def toJson (r : Review) : Json := .object r.members

/-! ## Reading -/

/-- The integer that a value counts as, if it counts as one. -/
def integerOf? : Json → Option Int
  | .bool b => some (if b then 1 else 0)
  | .int i => some i
  | .float x => x.truncate.toOption
  | .string s => Integer.ofText? s.toList
  | _ => none

/-- The member as an integer. -/
def integerAt (key : String) (default : Int) (members : List (String × Json)) : Int :=
  ((Json.lookup key members).bind integerOf?).getD default

/-- The member as a text. -/
def textAt (key default : String) (members : List (String × Json)) : String :=
  match Json.lookup key members with
  | some value => value.display
  | none => default

/-- The member as a text, empty where it counts as absent. -/
def filledAt (key : String) (members : List (String × Json)) : String :=
  match Json.lookup key members with
  | some value => if value.isEmpty then "" else value.display
  | none => ""

def issueOf (members : List (String × Json)) : Issue where
  line := .int (integerAt "line" 1 members)
  column := .int (integerAt "column" 1 members)
  message := .string (textAt "message" "" members)
  severity := textAt "severity" Severity.info.name members
  rule := textAt "rule" "unknown" members
  category := textAt "category" Category.style.name members

/-- The issues of a list; what is no object is none. -/
def issuesOf (items : List Json) : List Issue :=
  items.filterMap fun
    | .object members => some (issueOf members)
    | _ => none

def snapshotOf (members : List (String × Json)) : Snapshot where
  complexity := integerAt "complexity" 0 members
  maintainability := integerAt "maintainability" 0 members
  duplication := integerAt "duplication" 0 members

/-- The review that an object holds. -/
def ofMembers (members : List (String × Json)) : Review where
  timestamp := (Json.lookup "timestamp" members).getD (.string "")
  fileName := filledAt "file_name" members
  filePath := filledAt "file_path" members
  issueCount := integerAt "issue_count" 0 members
  issues := match Json.lookup "issues" members with
    | some (.array items) => issuesOf items
    | _ => []
  metrics := match Json.lookup "metrics" members with
    | some (.object metrics) => snapshotOf metrics
    | _ => {}

/-- The review that a value holds; only objects hold one. -/
def ofJson : Json → Except Fault Review
  | .object members => .ok (ofMembers members)
  | _ => .error .noOperation

end Review

end CodeReview
