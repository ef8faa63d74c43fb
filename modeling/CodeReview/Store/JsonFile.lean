/-
A JSON file as a store. A new document is written beside the file and then moved over it, so the file
never holds half of one.
-/
import CodeReview.Disk
import CodeReview.Json.Reader
import CodeReview.Json.Writer
import CodeReview.Store.Basic

namespace CodeReview

/-- The fault of a text that is no JSON. -/
def Json.ReadError.fault : Json.ReadError → Fault
  | .malformed => .malformedJson
  | .integerTooLong => .invalid "Exceeds the limit for integer string conversion"
  | .nestedTooDeep => .nestedTooDeep

/-- The fault of a value that is not written. -/
def Json.WriteError.fault : Json.WriteError → Fault
  | .integerTooLong => .invalid ("Exceeds the limit (" ++ toString Integer.maxDigits ++
      " digits) for integer string conversion; use sys.set_int_max_str_digits() to increase the limit")
  | .nestedTooDeep => .nestedTooDeep

namespace JsonFile

/-- The document that a JSON value is: an object whose reviews, if it has any, are a list. -/
def documentOf? (value : Json) : Option Json :=
  match value with
  | .object members =>
    match Json.lookup "reviews" members with
    | some (.array _) | none => some (.object (Store.withReviews members))
    | some _ => none
  | _ => none

/-- The document in a file; where there is no file, the empty one. -/
def load (path : Path) : Act Disk Json := do
  let disk ← Act.get
  if ← Act.ofExcept (disk.has path.text) then
    let text ← Act.ofExcept (disk.readText path.text)
    let value ← Act.ofExcept ((Json.read text).mapError Json.ReadError.fault)
    match documentOf? value with
    | some document => return document
    | none =>
      Act.fail (.unusableDocument (path.text ++ " does not contain a review history document"))
  else return Store.emptyDocument

/-- The path beside a file where a new document is written first. -/
def draft (path : Path) : Except Fault Path :=
  match path.appendToName? ".tmp" with
  | some draft => .ok draft
  | none => .error (.invalid ("PosixPath(" ++ Text.quote path.text ++
      ") has an empty name"))

def save (path : Path) (document : Json) : Act Disk Unit := do
  Disk.makeDirectories path.parent
  let draft ← Act.ofExcept (draft path)
  let text ← Act.ofExcept ((Json.write document).mapError Json.WriteError.fault)
  Disk.writeText draft.text text
  Act.tryModify (·.withMoved draft.text path.text)

/-- Deletes the file. -/
def clear (path : Path) : Act Disk Unit := do
  if ← Act.ofExcept ((← Act.get).has path.text) then
    Act.tryModify (·.withoutFile path.text)
    Act.note (.historyDeleted path.text)

/-- The store in the file at a path. -/
def store (path : Path) : Store Disk where
  load := load path
  save := save path
  clear := clear path

end JsonFile

end CodeReview
