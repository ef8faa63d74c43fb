/-
Disks: directories and files. A path is followed from its first name to its last, and what is on the
way must be there and be a directory.
-/
import CodeReview.Act
import CodeReview.Path

namespace CodeReview

/-- A file, or a directory with its entries by name. -/
inductive Entry where
  | file (content : Text.Bytes)
  | directory (entries : List (String × Entry))
  deriving Repr, Inhabited

namespace Entry

/-- The entries of a directory. -/
def entries : Entry → List (String × Entry)
  | .directory entries => entries
  | .file _ => []

/-- What lies under a list of names. -/
def at? (entry : Entry) : List String → Option Entry
  | [] => some entry
  | name :: names =>
    match entry.entries.lookup name with
    | some inner => inner.at? names
    | none => none

/-- The entries with what `change` makes of the one with a name, or of none, in its place. -/
def updateNamed (change : Option Entry → Option Entry) (name : String) :
    List (String × Entry) → List (String × Entry)
  | [] => (change none).toList.map (name, ·)
  | (n, entry) :: rest =>
    if n = name then (change (some entry)).toList.map (name, ·) ++ rest
    else (n, entry) :: updateNamed change name rest

/-- Changes what lies under a list of names; directories that are not there are made. -/
def update (change : Option Entry → Option Entry) :
    List String → List (String × Entry) → List (String × Entry)
  | [], all => all
  | [name], all => updateNamed change name all
  | name :: names, all =>
    updateNamed (fun entry => some (.directory (update change names ((entry.map entries).getD []))))
      name all

end Entry

/-- A disk: the entries of its root, and the directory in which those paths begin that do not begin at
the root. -/
structure Disk where
  root : List (String × Entry)
  workingDirectory : List String
  deriving Repr

namespace Disk

/-- The working directory as a path. -/
def workingPath (d : Disk) : String := "/" ++ "/".intercalate d.workingDirectory

/-- What lies under a list of names. -/
def at? (d : Disk) (names : List String) : Option Entry := (Entry.directory d.root).at? names

/-! ## Paths -/

/-- No name has more bytes than this. -/
def maxName : Nat := 255

/-- No path has more bytes than this. -/
def maxPath : Nat := 4095

/-- Where the pieces of a path lead from a place. The last name may be one without an entry if `new`
says so. -/
def walk (d : Disk) (path : String) (new : Bool) :
    List String → List String → Except FileFault (List String)
  | here, [] => .ok here
  | here, piece :: pieces =>
    match d.at? here with
    | none => .error (.missing path)
    | some (.file _) => .error (.notADirectory path)
    | some (.directory entries) =>
      if piece = "" || piece = "." then walk d path new here pieces
      else if piece = ".." then walk d path new here.dropLast pieces
      else if maxName < Text.encodedSize piece.toList then .error (.nameTooLong path)
      else if (entries.lookup piece).isNone && !(new && pieces.isEmpty) then
        .error (.missing path)
      else walk d path new (here ++ [piece]) pieces

/-- The place that a path leads to. -/
def place (d : Disk) (new : Bool) (path : String) : Except Fault (List String) :=
  if path.toList.contains '\x00' then .error (.invalid "embedded null byte")
  else if path.isEmpty then .error (.file (.missing path))
  else if maxPath < Text.encodedSize path.toList then .error (.file (.nameTooLong path))
  else
    let start := if path.startsWith "/" then [] else d.workingDirectory
    (d.walk path new start (Path.pieces path)).mapError .file

/-- What lies at a path. -/
def find (d : Disk) (path : String) : Except Fault Entry := do
  match d.at? (← d.place false path) with
  | some entry => return entry
  | none => throw (.file (.missing path))

/-- Something lies at a path. Only a name that is too long is a fault. -/
def has (d : Disk) (path : String) : Except Fault Bool :=
  match d.find path with
  | .ok _ => .ok true
  | .error (.file (.nameTooLong p)) => .error (.file (.nameTooLong p))
  | .error _ => .ok false

def isDirectory (d : Disk) (path : String) : Bool :=
  match d.find path with
  | .ok (.directory _) => true
  | _ => false

/-! ## Reading -/

/-- The bytes of the file at a path. -/
def read (d : Disk) (path : String) : Except Fault Text.Bytes := do
  match ← d.find path with
  | .file content => return content
  | .directory _ => throw (.file (.isADirectory path))

/-- The text of the file at a path, with line feeds only at the ends of its lines. -/
def readText (d : Disk) (path : String) : Except Fault (List Char) := do
  match Text.decode (← d.read path) with
  | .ok text => return Text.normalizeNewlines text
  | .error misfit => throw (.undecodable misfit)

/-- The size that every directory has. -/
def directorySize : Nat := 4096

/-- The size of what lies at a path, in bytes. -/
def size (d : Disk) (path : String) : Except Fault Nat := do
  match ← d.find path with
  | .file content => return content.length
  | .directory _ => return directorySize

/-! ## Writing -/

/-- The disk with the entry at a place, if it has one, made into another. -/
def put (d : Disk) (entry : Option Entry) (names : List String) : Disk :=
  { d with root := Entry.update (fun _ => entry) names d.root }

/-- The disk with a file at a path. -/
def withFile (d : Disk) (path : String) (content : Text.Bytes) : Except Fault Disk := do
  let names ← d.place true path
  match d.at? names with
  | some (.directory _) => throw (.file (.isADirectory path))
  | _ => return d.put (some (.file content)) names

/-- The disk without the file at a path. -/
def withoutFile (d : Disk) (path : String) : Except Fault Disk := do
  match ← d.find path with
  | .directory _ => throw (.file (.isADirectory path))
  | .file _ => return d.put none (← d.place false path)

/-- The disk with a new directory at a path. -/
def withDirectory (d : Disk) (path : String) : Except Fault Disk := do
  let names ← d.place true path
  match d.at? names with
  | some _ => throw (.file (.exists path))
  | none => return d.put (some (.directory [])) names

/-- The disk with the file at `source` moved to `target`, over a file that lies there. -/
def withMoved (d : Disk) (source target : String) : Except Fault Disk := do
  let content ← d.read source
  let sourceNames ← d.place false source
  let names ← d.place true target
  match d.at? names with
  | some (.directory _) => throw (.file (.replacesDirectory source target))
  | _ => return (d.put none sourceNames).put (some (.file content)) names

def write (path : String) (content : Text.Bytes) : Act Disk Unit :=
  Act.tryModify (·.withFile path content)

def writeText (path : String) (text : List Char) : Act Disk Unit := write path (Text.encode text)

/-- Makes a directory; one that is there already is left alone. -/
def ensureDirectory (path : Path) : Act Disk Unit := do
  match ← Act.attempt (Act.tryModify (·.withDirectory path.text)) with
  | .ok () => return
  | .error fault =>
    if fault.isStorageFault && (← Act.get).isDirectory path.text then return else Act.fail fault

/-- Makes a directory and, before it, up to `depth` directories on the way to it. -/
def ensureDirectories : Nat → Path → Act Disk Unit
  | 0, path => ensureDirectory path
  | depth + 1, path => do
    match ← Act.attempt (ensureDirectory path) with
    | .ok () => return
    | .error (.file (.missing p)) =>
      if path.parts.isEmpty then Act.fail (.file (.missing p))
      else do
        ensureDirectories depth path.parent
        ensureDirectory path
    | .error fault => Act.fail fault

/-- Makes a directory and all those on the way to it that are not there. -/
def makeDirectories (path : Path) : Act Disk Unit := ensureDirectories path.parts.length path

end Disk

end CodeReview
