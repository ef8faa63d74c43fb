/-
Acts: computations that may fail and that read and change a state, leaving notices behind
and what is to be shown. What an act left behind before it failed is kept.
-/
import CodeReview.Console
import CodeReview.Fault
import CodeReview.Notice

namespace CodeReview

/-- What an act comes to. -/
structure Outcome (σ α : Type) where
  result : Except Fault α
  state : σ
  notices : List Notice := []
  shown : List Shown := []

def Act (σ α : Type) : Type := σ → Outcome σ α

namespace Act

variable {σ τ α β : Type}

def run (act : Act σ α) (state : σ) : Outcome σ α := act state

protected def pure (a : α) : Act σ α := fun s => ⟨.ok a, s, [], []⟩

protected def bind (act : Act σ α) (next : α → Act σ β) : Act σ β := fun s =>
  let first := act s
  match first.result with
  | .error fault => ⟨.error fault, first.state, first.notices, first.shown⟩
  | .ok a =>
    let second := next a first.state
    ⟨second.result, second.state, first.notices ++ second.notices,
      first.shown ++ second.shown⟩

instance : Monad (Act σ) where
  pure := Act.pure
  bind := Act.bind

/-- Fails. -/
def fail (fault : Fault) : Act σ α := fun s => ⟨.error fault, s, [], []⟩

/-- The result of a computation without a state. -/
def ofExcept (result : Except Fault α) : Act σ α := fun s => ⟨result, s, [], []⟩

def get : Act σ σ := fun s => ⟨.ok s, s, [], []⟩

def modify (f : σ → σ) : Act σ Unit := fun s => ⟨.ok (), f s, [], []⟩

/-- Changes the state or fails and leaves it alone. -/
def tryModify (f : σ → Except Fault σ) : Act σ Unit := fun s =>
  match f s with
  | .ok s' => ⟨.ok (), s', [], []⟩
  | .error fault => ⟨.error fault, s, [], []⟩

def note (notice : Notice) : Act σ Unit := fun s => ⟨.ok (), s, [notice], []⟩

def noteAll (notices : List Notice) : Act σ Unit := fun s => ⟨.ok (), s, notices, []⟩

def display (item : Shown) : Act σ Unit := fun s => ⟨.ok (), s, [], [item]⟩

/-- Writes a text as it is. -/
def print (text : String) : Act σ Unit := display (.text text)

/-- Shows a line. -/
def say (line : String) : Act σ Unit := display (.line line)

/-- The act's result or the fault it failed with. -/
def attempt (act : Act σ α) : Act σ (Except Fault α) := fun s =>
  let first := act s
  ⟨.ok first.result, first.state, first.notices, first.shown⟩

/-- An act on a part of a larger state. -/
def within (part : τ → σ) (update : σ → τ → τ) (act : Act σ α) : Act τ α := fun t =>
  let inner := act (part t)
  ⟨inner.result, update inner.state t, inner.notices, inner.shown⟩

/-! ## Results and states -/

@[simp] theorem result_pure (a : α) (s : σ) : ((pure a : Act σ α) s).result = .ok a := rfl

@[simp] theorem state_pure (a : α) (s : σ) : ((pure a : Act σ α) s).state = s := rfl

@[simp] theorem result_ofExcept (r : Except Fault α) (s : σ) : (ofExcept r s).result = r := rfl

@[simp] theorem state_ofExcept (r : Except Fault α) (s : σ) : (ofExcept r s).state = s := rfl

@[simp] theorem result_fail (fault : Fault) (s : σ) :
    ((fail fault : Act σ α) s).result = .error fault := rfl

@[simp] theorem result_note (notice : Notice) (s : σ) : (note notice s).result = .ok () := rfl

@[simp] theorem state_note (notice : Notice) (s : σ) : (note notice s).state = s := rfl

@[simp] theorem result_noteAll (notices : List Notice) (s : σ) :
    (noteAll notices s).result = .ok () := rfl

@[simp] theorem state_noteAll (notices : List Notice) (s : σ) : (noteAll notices s).state = s := rfl

@[simp] theorem result_attempt (act : Act σ α) (s : σ) :
    (attempt act s).result = .ok (act s).result := rfl

@[simp] theorem state_attempt (act : Act σ α) (s : σ) : (attempt act s).state = (act s).state := rfl

/-- An act goes on from the result and the state of the act before it, and not at all after a
fault. -/
theorem result_bind (act : Act σ α) (next : α → Act σ β) (s : σ) :
    ((act >>= next) s).result = match (act s).result with
      | .ok a => (next a (act s).state).result
      | .error fault => .error fault := by
  show (Act.bind act next s).result = _
  unfold Act.bind
  dsimp only
  cases (act s).result <;> rfl

theorem state_bind (act : Act σ α) (next : α → Act σ β) (s : σ) :
    ((act >>= next) s).state = match (act s).result with
      | .ok a => (next a (act s).state).state
      | .error _ => (act s).state := by
  show (Act.bind act next s).state = _
  unfold Act.bind
  dsimp only
  cases (act s).result <;> rfl

/-- Two acts, one after the other, have a result exactly if both have. -/
theorem result_bind_eq_ok {act : Act σ α} {next : α → Act σ β} {s : σ} {b : β} :
    ((act >>= next) s).result = .ok b ↔
      ∃ a, (act s).result = .ok a ∧ (next a (act s).state).result = .ok b := by
  rw [result_bind]
  cases h : (act s).result with
  | error fault => simp
  | ok a => simp

end Act

end CodeReview
