/-
The command line. The files below the working directory are read before a call is answered, and those
that the call changes are written after it. Other programs are not run and no service is asked: a
linter counts as missing, and a gist as out of reach.
-/
import CodeReview.CommandLine.Program
import CodeReview.Console
import Std.Time.DateTime.Timestamp

namespace CodeReview.CommandLine

/-! ## Files -/

/-- The entries of a directory, as deep as `depth` levels. -/
def readEntries : Nat → Array IO.FS.DirEntry → IO (List (String × Entry))
  | 0, _ => return []
  | depth + 1, found => do
    let mut entries := []
    for entry in found do
      if ← entry.path.isDir then
        let inner ← readEntries depth (← entry.path.readDir)
        entries := (entry.fileName, .directory inner) :: entries
      else
        let content ← IO.FS.readBinFile entry.path
        entries := (entry.fileName, .file content.toList) :: entries
    return entries

/-- How many levels of directories are read. -/
def maxDepth : Nat := 64

/-- The disk as it is seen from the working directory. -/
def readDisk : IO Disk := do
  let here ← IO.currentDir
  let entries ← readEntries maxDepth (← here.readDir)
  let parts := (Path.ofString here.toString).parts
  return (⟨[], parts⟩ : Disk).put (some (.directory entries)) parts

/-- The files below some entries, by their paths. -/
def filesIn (path : String) : List (String × Entry) → List (String × Text.Bytes)
  | [] => []
  | (name, .file content) :: rest => (Path.join path name, content) :: filesIn path rest
  | (name, .directory inner) :: rest => filesIn (Path.join path name) inner ++ filesIn path rest

/-- The files that a disk has below its working directory. -/
def files (d : Disk) : List (String × Text.Bytes) :=
  filesIn "" ((d.at? d.workingDirectory).map Entry.entries |>.getD [])

/-- Writes the files that have changed and deletes those that are gone. -/
def writeChanges (before after : Disk) : IO Unit := do
  let old := files before
  let new := files after
  for (path, content) in new do
    if old.lookup path != some content then
      let directory := (Path.ofString path).parent
      unless directory.parts.isEmpty do IO.FS.createDirAll directory.text
      IO.FS.writeBinFile path ⟨content.toArray⟩
  for (path, _) in old do
    if (new.lookup path).isNone then IO.FS.removeFile path

/-! ## The clock and the input -/

/-- The moment at the beginning of the seconds that the clock counts. -/
def epoch : Moment := ⟨⟨1970, 1, 1⟩, 0, 0, 0, 0, some 0⟩

def readClock : IO Moment := do
  let now ← Std.Time.Timestamp.now
  let micros := now.toNanosecondsSinceUnixEpoch.val / 1000
  return (Moment.ofMicros? (epoch.instant + micros) (some 0)).getD epoch

/-- A line without its end. -/
def lineOf (line : String) : List Char :=
  (line.toList.reverse.dropWhile fun c => c = '\n' || c = '\r').reverse

/-- The call was given up because there was nothing more to read. -/
def wasAborted (outcome : Outcome Session Unit) : Bool :=
  match outcome.result with
  | .error (.usage .aborted) => true
  | _ => false

/-- Shows what has not been shown yet. -/
def showFrom (count : Nat) (outcome : Outcome Session Unit) : IO String := do
  let text := String.join (outcome.shown.map Shown.plain)
  IO.print (String.ofList (text.toList.drop count))
  return text

/-- Answers a call. Where its dialogue needs another line, the line is read and the call is answered
again from the beginning; `count` characters have been shown by then. -/
partial def converse (arguments : List String) (session : Session) (count : Nat) :
    IO (Outcome Session Unit) := do
  let outcome := (Program.run arguments).run session
  let text ← showFrom count outcome
  if wasAborted outcome then
    (← IO.getStdout).flush
    let line ← (← IO.getStdin).getLine
    if line.isEmpty then return outcome
    let typed := lineOf line
    converse arguments { session with input := session.input ++ [typed] }
      (text.length + typed.length + 1)
  else return outcome

/-! ## Faults -/

/-- Writes a fault and returns the status that it leaves. -/
def report (fault : Fault) : IO UInt32 := do
  match fault with
  | .usage .aborted =>
    IO.eprintln "Aborted!"
    return 1
  | .usage (.failed message) =>
    IO.eprintln ("Error: " ++ message)
    return 1
  | .usage fault =>
    IO.eprintln ("Error: " ++ fault.message)
    return 2
  | fault =>
    IO.eprintln (fault.label ++ ": " ++ fault.detail)
    return 1

end CodeReview.CommandLine

open CodeReview CodeReview.CommandLine in
/-- Answers the call with the given arguments. -/
def main (arguments : List String) : IO UInt32 := do
  let disk ← readDisk
  let session : Session := {
    disk
    gists := { content := none, reachable := false }
    now := ← readClock
    environment := ⟨← IO.getEnv "GITHUB_TOKEN", ← IO.getEnv "SCANLENS_CONFIG"⟩ }
  let outcome ← converse arguments session 0
  for notice in outcome.notices do
    if notice.level = .warning then IO.eprintln notice.message
  writeChanges disk outcome.state.disk
  match outcome.result with
  | .ok () => return 0
  | .error fault => report fault
