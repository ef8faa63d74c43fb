/-
A document in memory, which can be made to fail when it is loaded or saved.
-/
import CodeReview.Store.Basic

namespace CodeReview

structure Memory where
  document : Json
  failsToLoad : Bool := false
  failsToSave : Bool := false
  deriving Repr

namespace Memory

/-- How it fails. -/
def fault : Fault := .device "disk on fire"

def load : Act Memory Json := do
  let memory ← Act.get
  if memory.failsToLoad then Act.fail fault else return memory.document

def save (document : Json) : Act Memory Unit := do
  let memory ← Act.get
  if memory.failsToSave then Act.fail fault
  else Act.modify fun memory => { memory with document }

def store : Store Memory where
  load
  save
  clear := save Store.emptyDocument

end Memory

end CodeReview
