/-
Runs of everything that a history is asked for. Unlike the requests of a run without faults, each
operation is answered or fails on its own, and the run goes on with the next one.
-/
import CodeReview.Proofs.History.Run
import CodeReview.Proofs.History.Steps

namespace CodeReview.History

/-- Everything that is asked of a history, or its clock going on. -/
inductive Operation where
  | request (request : Request)
  | summarize
  | exportCsv
  | exportJson

inductive Reply where
  | answered (answer : Answer)
  | summarized (timeline : Timeline)
  | exported (text : String)

namespace Operation

/-- What the clock shows after an operation. -/
def clock (now : Moment) : Operation → Moment
  | .request r => r.clock now
  | _ => now

/-- What the clock shows after some operations. -/
def clockAfter (now : Moment) (operations : List Operation) : Moment := operations.foldl clock now

end Operation

variable {σ : Type}

def perform (h : History σ) : Operation → Act σ Reply
  | .request request => return .answered (← h.answer request)
  | .summarize => return .summarized (← h.summarize)
  | .exportCsv => return .exported (← h.exportCsv)
  | .exportJson => return .exported (← h.exportJson)

/-- The replies to some operations, or the faults in their place, one after the other. -/
def trace (store : Store σ) (retention : Value) :
    Moment → List Operation → Act σ (List (Except Fault Reply))
  | _, [] => return []
  | now, operation :: rest => do
    let reply ← Act.attempt ((History.mk store retention now).perform operation)
    return reply :: (← trace store retention (operation.clock now) rest)

theorem result_trace_cons (store : Store σ) (retention : Value) (now : Moment) (operation : Operation)
    (rest : List Operation) (s : σ) : (trace store retention now (operation :: rest) s).result =
      (trace store retention (operation.clock now) rest
        ((History.mk store retention now).perform operation s).state).result.map
          (((History.mk store retention now).perform operation s).result :: ·) := by
  rw [trace, Act.result_bind, Act.result_attempt, Act.state_attempt]
  dsimp only
  rw [Act.result_bind]
  cases (trace store retention (operation.clock now) rest _).result with
  | ok replies => rfl
  | error fault => rfl

theorem state_trace_cons (store : Store σ) (retention : Value) (now : Moment) (operation : Operation)
    (rest : List Operation) (s : σ) : (trace store retention now (operation :: rest) s).state =
      (trace store retention (operation.clock now) rest
        ((History.mk store retention now).perform operation s).state).state := by
  rw [trace, Act.state_bind, Act.result_attempt, Act.state_attempt]
  dsimp only
  rw [Act.state_bind]
  cases (trace store retention (operation.clock now) rest _).result with
  | ok replies => rfl
  | error fault => rfl

/-- An operation gives what is asked for. -/
theorem result_perform (h : History σ) (operation : Operation) (s : σ) :
    (h.perform operation s).result = match operation with
      | .request (.record scan) => (h.record scan s).result.map fun review => .answered (.recorded review)
      | .request .clear => (h.clear s).result.map fun done => .answered (.cleared done)
      | .request .reviews => (h.reviews s).result.map fun reviews => .answered (.listed reviews)
      | .request (.advance _) => .ok (.answered .advanced)
      | .summarize => (h.summarize s).result.map .summarized
      | .exportCsv => (h.exportCsv s).result.map .exported
      | .exportJson => (h.exportJson s).result.map .exported := by
  have hreturn {α β : Type} (act : Act σ α) (f : α → β) :
      ((do return f (← act) : Act σ β) s).result = (act s).result.map f := by
    rw [Act.result_bind]
    cases (act s).result with
    | ok a => rfl
    | error fault => rfl
  have hanswer {α : Type} (act : Act σ α) (f : α → Answer) :
      ((do return Reply.answered (← (do return f (← act) : Act σ Answer)) : Act σ Reply) s).result =
        (act s).result.map fun a => .answered (f a) := by
    rw [hreturn, hreturn]
    cases (act s).result with
    | ok a => rfl
    | error fault => rfl
  cases operation with
  | request request =>
    cases request with
    | record scan => exact hanswer _ _
    | clear => exact hanswer _ _
    | reviews => exact hanswer _ _
    | advance now => rfl
  | summarize => exact hreturn _ _
  | exportCsv => exact hreturn _ _
  | exportJson => exact hreturn _ _

/-- An operation leaves the state that what it asks for leaves. -/
theorem state_perform (h : History σ) (operation : Operation) (s : σ) :
    (h.perform operation s).state = match operation with
      | .request (.record scan) => (h.record scan s).state
      | .request .clear => (h.store.clear s).state
      | .request (.advance _) => s
      | _ => (h.store.load s).state := by
  have hreturn {α β : Type} (act : Act σ α) (f : α → β) :
      ((do return f (← act) : Act σ β) s).state = (act s).state := by
    rw [Act.state_bind]
    cases (act s).result with
    | ok a => rfl
    | error fault => rfl
  cases operation with
  | request request =>
    cases request with
    | record scan => exact (hreturn _ _).trans (hreturn _ _)
    | clear => exact ((hreturn _ _).trans (hreturn _ _)).trans (h.state_clear s)
    | reviews => exact ((hreturn _ _).trans (hreturn _ _)).trans (h.state_reviews s)
    | advance now => exact hreturn _ _
  | summarize => exact (hreturn _ _).trans (h.state_summarize s)
  | exportCsv => exact (hreturn _ _).trans (h.state_exportCsv s)
  | exportJson => exact (hreturn _ _).trans (h.state_exportJson s)

end CodeReview.History
