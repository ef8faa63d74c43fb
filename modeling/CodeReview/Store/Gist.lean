/-
A gist as a store: files kept by a service, of which one holds the history. The service keeps account
of what it was asked.
-/
import CodeReview.Store.JsonFile
import CodeReview.Value.Display

namespace CodeReview

/-- Something the service was asked. -/
inductive GistCall where
  /-- To let the bearer of a token in. -/
  | opened (token : Value)
  | fetched (gist : Value)
  | edited (files : List String)
  | closed
  deriving Repr

/-- The service. -/
structure GistService where
  /-- The text of the history's file, if the gist has one. -/
  content : Option String
  /-- Gists can be fetched. -/
  reachable : Bool := true
  calls : List GistCall := []
  deriving Repr

namespace Gist

/-- The name of the history's file. -/
def fileName : String := "scanlens_history.json"

def call (c : GistCall) : Act GistService Unit :=
  Act.modify fun service => { service with calls := service.calls ++ [c] }

/-- Asks to be let in. -/
def openWith (token : Value) : Act GistService Unit := call (.opened token)

def fetch (gist : Value) : Act GistService Unit := do
  call (.fetched gist)
  if (← Act.get).reachable then return else Act.fail (.device "gist unavailable")

/-- The document in a text; a list is a history without anything around it. -/
def documentOf (gist : Value) (content : String) : Except Fault Json := do
  match ← (Json.read content.toList).mapError Json.ReadError.fault with
  | .array reviews => return Store.documentOf reviews
  | .object members => return .object (Store.withReviews members)
  | _ => throw (.unusableDocument ("Gist " ++ gist.display ++
      " does not contain a review history document"))

/-- The document in a gist; without its file, or with nothing in it, the empty one. -/
def load (gist : Value) : Act GistService Json := do
  fetch gist
  match (← Act.get).content with
  | none => return Store.emptyDocument
  | some content =>
    if content.isEmpty then return Store.emptyDocument
    else Act.ofExcept (documentOf gist content)

/-- How many reviews a document has, as far as they can be counted. -/
def reviewCount (document : Json) : Except Fault Nat :=
  match document with
  | .object members =>
    match (Json.lookup "reviews" members).getD (.array []) with
    | .array reviews => .ok reviews.length
    | .object reviews => .ok reviews.length
    | .string reviews => .ok reviews.length
    | _ => .error .wrongType
  | _ => .error .noOperation

def save (gist : Value) (document : Json) : Act GistService Unit := do
  fetch gist
  let text ← Act.ofExcept ((Json.write document).mapError Json.WriteError.fault)
  call (.edited [fileName])
  Act.modify fun service => { service with content := some (String.ofList text) }
  let count ← Act.ofExcept (reviewCount document)
  Act.note (.gistSaved count gist.display)

/-- The store in a gist, for one who has been let in. -/
def store (gist : Value) : Store GistService where
  load := load gist
  save := save gist
  clear := save gist Store.emptyDocument
  close := call .closed

end Gist

end CodeReview
