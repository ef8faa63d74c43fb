/-
Paths: the parts between slashes, after one, two or no leading slashes. A path can be taken apart and
put together without looking at any file; `Path.relative` says how a file is named inside a root
directory.
-/
import CodeReview.Text.Find
import CodeReview.Text.Lines

namespace CodeReview

/-- A path. Parts are neither empty nor a single point. -/
structure Path where
  slashes : Nat
  parts : List String
  deriving DecidableEq, Repr

namespace Path

/-- The pieces of a path between slashes. -/
def pieces (path : String) : List String :=
  (Text.splitOnChar '/' path.toList).map String.ofList

/-- How many leading slashes count: three or more are one. -/
def leadingSlashes (path : String) : Nat :=
  match (path.toList.takeWhile (· = '/')).length with
  | 0 => 0
  | 2 => 2
  | _ => 1

def ofString (path : String) : Path :=
  ⟨leadingSlashes path, (pieces path).filter fun p => p ≠ "" && p ≠ "."⟩

/-- The path as a text; the path without parts is a single point. -/
def text (p : Path) : String :=
  let body := "/".intercalate p.parts
  if p.slashes = 0 then if p.parts.isEmpty then "." else body
  else "".pushn '/' p.slashes ++ body

/-- The last part. -/
def name (p : Path) : String := p.parts.getLast?.getD ""

/-- The path without its last part. -/
def parent (p : Path) : Path := { p with parts := p.parts.dropLast }

/-- The last point of a name and what follows it, unless the point is its first or last character. -/
def suffix (p : Path) : String :=
  let name := p.name.toList
  let after := Text.afterLast '.' name
  if after.isEmpty || name.length ≤ after.length + 1 then "" else String.ofList ('.' :: after)

/-- The path with a text put after its name; `none` where there is no name. -/
def appendToName? (p : Path) (more : String) : Option Path :=
  if p.name = "" then none
  else some { p with parts := p.parts.dropLast ++ [p.name ++ more] }

/-! ## Where a path leads -/

/-- Follows a path from a directory given by its parts, from the root. -/
def follow (parts : List String) : List String → List String
  | [] => parts
  | piece :: rest =>
    if piece = "" || piece = "." then follow parts rest
    else if piece = ".." then follow parts.dropLast rest
    else follow (parts ++ [piece]) rest

/-- The parts, from the root, of what a path names for one who is in the directory `cwd`. -/
def resolve (cwd path : String) : List String :=
  if path.startsWith "/" then follow [] (pieces path)
  else follow (follow [] (pieces cwd)) (pieces path)

/-- The way from one directory to another: up to the last common one, then down. -/
def wayTo : List String → List String → List String
  | a :: source, b :: target =>
    if a = b then wayTo source target
    else List.replicate (source.length + 1) ".." ++ b :: target
  | source, target => List.replicate source.length ".." ++ target

/-- Each backslash as a slash. -/
def withSlashes (path : List Char) : List Char := path.map fun c => if c = '\\' then '/' else c

/-- How a file is named inside the directory `root`; one outside keeps the name it has. -/
def relative (cwd file root : String) : String :=
  let way := wayTo (resolve cwd root) (resolve cwd file)
  let inside := if way.isEmpty then "." else "/".intercalate way
  let named := if Text.startsWith inside.toList ['.', '.'] then file else inside
  let named := withSlashes named.toList
  match Text.dropFront? ['.', '/'] named with
  | some rest => String.ofList rest
  | none => String.ofList named

/-- What follows the last slash. -/
def baseName (path : String) : String := String.ofList (Text.afterLast '/' path.toList)

/-- A name inside a directory. -/
def join (directory name : String) : String :=
  if directory = "" || directory.endsWith "/" then directory ++ name
  else directory ++ "/" ++ name

end Path

end CodeReview
