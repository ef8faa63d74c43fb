/-
Which files a configuration leaves out. A pattern leaves a file out if its glob covers the path of the
file inside the root; if, without a slash, it covers the name of the file; or if, without a star, it
names a directory on the way to the file.
-/
import CodeReview.Config.Basic
import CodeReview.Glob
import CodeReview.Path

namespace CodeReview.Exclusion

/-- The pattern as a directory: one slash at the end. -/
def directory (pattern : List Char) : List Char := Text.dropTrailing '/' pattern ++ ['/']

/-- The pattern leaves out the file at a path, which is given inside the root. -/
def leavesOut (path : List Char) (pattern : List Char) : Bool :=
  (Glob.read pattern).covers path ||
    (!pattern.contains '/' && (Glob.read pattern).covers (Text.afterLast '/' path)) ||
    (!(directory pattern).contains '*' &&
      (Text.startsWith path (directory pattern) || Text.contains path ('/' :: directory pattern)))

/-- One of the patterns leaves out a file. -/
def excludes (cwd : String) (patterns : List String) (root file : String) : Bool :=
  let path := (Path.relative cwd file root).toList
  patterns.any fun pattern => leavesOut path pattern.toList

/-- What a pattern of any kind says about a path. Only texts are patterns; an empty list or map covers
the empty path and has no further say. -/
def leavesOut? (path : List Char) (pattern : Value) : Except Fault Bool :=
  match pattern with
  | .string s => .ok (leavesOut path s.toList)
  | .list items => if items.isEmpty && path.isEmpty then .ok true else .error .noOperation
  | .map entries => if entries.isEmpty && path.isEmpty then .ok true else .error .noOperation
  | .pair .. | .set _ => .error .noOperation
  | _ => .error .wrongType

/-- The first pattern that leaves out the path settles it, and so does the first that is none. -/
def anyLeavesOut (path : List Char) : List Value → Except Fault Bool
  | [] => .ok false
  | pattern :: patterns => do
    if ← leavesOut? path pattern then return true else anyLeavesOut path patterns

/-- Whether patterns and a root of any kind leave out a file. -/
def check (cwd : String) (patterns root : Value) (file : String) : Except Fault Bool :=
  match root with
  | .string root =>
    match patterns.elements? with
    | some patterns => anyLeavesOut (Path.relative cwd file root).toList patterns
    | none => .error .wrongType
  | _ => .error .wrongType

end CodeReview.Exclusion
