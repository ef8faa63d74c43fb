/-
Discovery: the source files below a directory. A directory's own files come first, then those of its
directories, each in the order of their names. Directories that are left out are not entered.
-/
import CodeReview.Config.Exclusion
import CodeReview.Disk
import CodeReview.Text.Case

namespace CodeReview.Discovery

/-- The endings of source files. -/
def sourceEndings : List String := [".js", ".jsx", ".mjs", ".cjs", ".ts", ".tsx"]

/-- The name is that of a source file; one that only declares types is none. -/
def isSource (name : String) : Bool :=
  let name := name.toList.map Text.lower
  sourceEndings.any (fun ending => Text.endsWith name ending.toList) &&
    !Text.endsWith name ".d.ts".toList

/-- The names of the source files among some entries, in order. -/
def sourceNames (entries : List (String × Entry)) : List String :=
  (entries.filterMap fun (name, entry) =>
    match entry with
    | .file _ => if isSource name then some name else none
    | .directory _ => none).mergeSort fun a b => a ≤ b

mutual

/-- The source files in an entry that lies at a path. -/
def below (leavesOut : String → Except Fault Bool) (path : String) :
    Entry → Except Fault (List String)
  | .file _ => .ok []
  | .directory entries => do
    let inner ← belowEach leavesOut path entries
    return (sourceNames entries).map (Path.join path) ++
      (inner.mergeSort fun a b => a.1 ≤ b.1).flatMap (·.2)

/-- The source files in each directory among the entries of the directory at a path, with the
directory's name. -/
def belowEach (leavesOut : String → Except Fault Bool) (path : String) :
    List (String × Entry) → Except Fault (List (String × List String))
  | [] => .ok []
  | (name, entry) :: rest =>
    match entry with
    | .file _ => belowEach leavesOut path rest
    | .directory inner => do
      let inside := Path.join path name
      if ← leavesOut (inside ++ "/") then belowEach leavesOut path rest
      else
        let files ← below leavesOut inside (.directory inner)
        return (name, files) :: (← belowEach leavesOut path rest)

end

/-- The source files below a directory; there are none below what is no directory. -/
def sources (d : Disk) (root : String) (patterns : Value) : Except Fault (List String) :=
  let patterns := if patterns.isEmpty then .list [] else patterns
  match d.find root with
  | .ok entry =>
    below (Exclusion.check d.workingPath patterns (.string root)) root entry
  | .error (.file _) => .ok []
  | .error fault => .error fault

end CodeReview.Discovery
