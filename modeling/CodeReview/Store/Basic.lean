/-
Stores: where the history is kept, as one document. A store may fail; what that means for the history
is not its business. The standard document holds a list of reviews, the newest first.
-/
import CodeReview.Act
import CodeReview.Json.Basic

namespace CodeReview

/-- A store whose state is a part of `σ`. -/
structure Store (σ : Type) where
  /-- The document that is kept. -/
  load : Act σ Json
  /-- Keeps another document. -/
  save : Json → Act σ Unit
  /-- Removes all history. -/
  clear : Act σ Unit
  close : Act σ Unit := Act.pure ()

namespace Store

variable {σ τ : Type}

/-- The document of a history with the given reviews. -/
def documentOf (reviews : List Json) : Json := .object [("reviews", .array reviews)]

def emptyDocument : Json := documentOf []

/-- The document with an empty list of reviews where it has no member for them. -/
def withReviews (members : List (String × Json)) : List (String × Json) :=
  match Json.lookup "reviews" members with
  | some _ => members
  | none => Json.insert "reviews" (.array []) members

/-- The store that keeps nothing. -/
def nothing : Store σ where
  load := pure emptyDocument
  save _ := pure ()
  clear := pure ()

/-- The store inside a larger state. -/
def within (part : τ → σ) (update : σ → τ → τ) (store : Store σ) : Store τ where
  load := store.load.within part update
  save document := (store.save document).within part update
  clear := store.clear.within part update
  close := store.close.within part update

end Store

end CodeReview
