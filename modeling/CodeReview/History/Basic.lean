/-
Histories: reviews in a store, of which those count that lie inside the retention window. A store that
cannot be read is an empty history, and one that cannot be written leaves a notice; neither keeps a
review from being made.
-/
import CodeReview.History.Review
import CodeReview.Store.Basic
import CodeReview.Value

namespace CodeReview

structure History (σ : Type) where
  store : Store σ
  /-- How many days a review is kept. -/
  retention : Value
  now : Moment

namespace History

variable {σ : Type}

/-- A review as it is kept. -/
abbrev Kept := List (String × Json)

/-! ## The retention window -/

/-- The moment up to which reviews have expired. -/
def cutoff (h : History σ) : Except Fault Moment :=
  match h.retention.amount? with
  | none => .error .wrongType
  | some days => do h.now.earlier (← microsOfDays days)

/-- When an entry was recorded. -/
def momentOf? (entry : Kept) : Option Moment :=
  Review.momentOf? ((Json.lookup "timestamp" entry).getD .null)

/-- The entry was recorded after a moment. -/
def isAfter (cutoff : Moment) (entry : Kept) : Bool :=
  match momentOf? entry with
  | some moment => cutoff.instant < moment.instant
  | none => false

/-- The entries inside the window, in order, with a notice for each that has no moment. -/
def prune (h : History σ) (entries : List Kept) : Act σ (List Kept) := do
  let cutoff ← Act.ofExcept h.cutoff
  Act.noteAll ((entries.filter fun e => (momentOf? e).isNone).map fun _ => .recordDropped)
  return entries.filter (isAfter cutoff)

/-! ## The store -/

/-- The objects among some values. -/
def objects (values : List Json) : List Kept :=
  values.filterMap fun
    | .object members => some members
    | _ => none

/-- The entries of a document. A text or an object has none; anything else that is no list is a
fault. -/
def entriesOf (document : Json) : Except Fault (List Kept) :=
  match document with
  | .object members =>
    match (Json.lookup "reviews" members).getD (.array []) with
    | .array reviews => .ok (objects reviews)
    | .object _ | .string _ => .ok []
    | _ => .error .wrongType
  | _ => .ok []

/-- The entries in the store, none if it cannot be read. -/
def load (h : History σ) : Act σ (List Kept) := do
  match ← Act.attempt h.store.load with
  | .error _ =>
    Act.note .historyUnreadable
    return []
  | .ok document => Act.ofExcept (entriesOf document)

/-- Keeps the entries, or says that they could not be kept. -/
def save (h : History σ) (entries : List Kept) : Act σ Unit := do
  match ← Act.attempt (h.store.save (Store.documentOf (entries.map .object))) with
  | .ok () => return
  | .error fault =>
    Act.note .historyNotSaved
    Act.print ("Warning: could not persist review history (" ++ fault.label ++ ": " ++
      fault.detail ++ ")\n")

/-! ## Operations -/

/-- Records a scan before all others; one of a file that is left out is not recorded. -/
def record (h : History σ) (scan : ScanResult) : Act σ (Option Review) := do
  if scan.excluded then return none
  let review := Review.ofScan h.now scan
  let entries ← h.prune (review.members :: (← h.load))
  h.save entries
  return some review

/-- The first of two reviews is at least as new. -/
def isNewer (a b : Review) : Bool :=
  match Review.momentOf? a.timestamp, Review.momentOf? b.timestamp with
  | some m, some n => n.instant ≤ m.instant
  | _, _ => true

/-- The reviews inside the window, the newest first. -/
def reviews (h : History σ) : Act σ (List Review) := do
  let entries ← h.prune (← h.load)
  return (entries.map Review.ofMembers).mergeSort isNewer

/-- Removes all history; says whether it could. -/
def clear (h : History σ) : Act σ Bool := do
  match ← Act.attempt h.store.clear with
  | .ok () => return true
  | .error _ =>
    Act.note .historyNotCleared
    return false

end History

end CodeReview
