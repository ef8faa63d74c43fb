/-
Notices: what the program reports about its own work, apart from its results. Each kind has a level
and a template whose blanks are filled when it is shown.
-/

namespace CodeReview

inductive Notice where
  | invalidCustomRule (rule : String)
  | detectorFailed (rule file : String)
  | unreadableConfig (path : String)
  | configNotMapping (path : String)
  | malformedRule
  | malformedRules
  | malformedLinter
  | invalidSetting (key : String)
  | linterNotRun (file : String)
  | linterFailed (status : Int) (file : String)
  | linterUnreadable
  | skippedExcluded (file : String)
  | unreadableFile (path : String)
  | scanFailed (path : String)
  | historyUnreadable
  | recordDropped
  | historyNotSaved
  | historyNotCleared
  | gistSaved (reviews : Nat) (gist : String)
  | historyDeleted (path : String)
  | tokenLookupUnavailable
  | tokenFromSession
  | gistNotCreated
  deriving DecidableEq, Repr

inductive Level where
  | debug
  | warning
  deriving DecidableEq, Repr

namespace Notice

def level : Notice → Level
  | .skippedExcluded _ | .recordDropped | .gistSaved .. | .historyDeleted _
  | .tokenLookupUnavailable | .tokenFromSession => .debug
  | _ => .warning

def template : Notice → String
  | .invalidCustomRule _ => "Ignoring invalid custom rule %r: %s"
  | .detectorFailed .. => "Detector %s failed on %s: %s"
  | .unreadableConfig _ => "Could not read %s, using defaults: %s"
  | .configNotMapping _ => "Ignoring %s: expected a mapping at the top level."
  | .malformedRule => "Ignoring malformed rules.%s: %r"
  | .malformedRules => "Ignoring malformed rules: %r"
  | .malformedLinter => "Ignoring malformed linter settings: %r"
  | .invalidSetting _ => "Invalid value for %r (%r); using default %r."
  | .linterNotRun _ => "External linter could not run on %s: %s"
  | .linterFailed .. => "External linter exited with %d on %s: %s"
  | .linterUnreadable => "External linter returned invalid JSON: %s"
  | .skippedExcluded _ => "Skipping excluded file %s"
  | .unreadableFile _ => "Skipping unreadable file %s: %s"
  | .scanFailed _ => "Failed to scan %s: %s"
  | .historyUnreadable => "Could not read review history (%s): %s"
  | .recordDropped => "Dropping review record with bad timestamp: %r"
  | .historyNotSaved => "Could not persist review history (%s): %s"
  | .historyNotCleared => "Could not clear review history (%s): %s"
  | .gistSaved .. => "Saved %d review(s) to gist %s"
  | .historyDeleted _ => "Deleted review history at %s"
  | .tokenLookupUnavailable => "gh CLI unavailable for token lookup: %s"
  | .tokenFromSession => "Resolved GitHub token via gh CLI session."
  | .gistNotCreated => "gh gist create failed: %s"

/-- What the first blanks of the template are filled with. -/
def details : Notice → List String
  | .invalidCustomRule rule => [rule]
  | .detectorFailed rule file => [rule, file]
  | .unreadableConfig path | .configNotMapping path => [path]
  | .invalidSetting key => [key]
  | .linterNotRun file => [file]
  | .linterFailed status file => [toString status, file]
  | .skippedExcluded file => [file]
  | .unreadableFile path | .scanFailed path | .historyDeleted path => [path]
  | .gistSaved reviews gist => [toString reviews, gist]
  | _ => []

/-- A template with its blanks filled; where nothing is left to fill in, there are three points. -/
def fill : List String → List Char → List Char
  | details, '%' :: _ :: rest =>
    match details with
    | detail :: details => detail.toList ++ fill details rest
    | [] => "...".toList ++ fill [] rest
  | details, c :: rest => c :: fill details rest
  | _, [] => []

def message (n : Notice) : String := String.ofList (fill n.details n.template.toList)

end Notice

def Level.name : Level → String
  | .debug => "DEBUG"
  | .warning => "WARNING"

end CodeReview
