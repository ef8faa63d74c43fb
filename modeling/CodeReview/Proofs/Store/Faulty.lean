/-
Stores that may fail, each operation anew, but do nothing by halves: what they are asked or nothing.
-/
import CodeReview.Store.Memory

namespace CodeReview

/-- A store whose operations do what they are asked, or fail and leave the document as it was;
`persisted` is the document that a state holds. -/
structure Store.IsAtomic {σ : Type} (store : Store σ) (persisted : σ → Json) : Prop where
  load_state (s : σ) : persisted (store.load s).state = persisted s
  load_result {s : σ} {document : Json} (h : (store.load s).result = .ok document) :
    document = persisted s
  save (s : σ) (next : Json) : persisted (store.save next s).state =
    match (store.save next s).result with
    | .ok _ => next
    | .error _ => persisted s
  clear (s : σ) : persisted (store.clear s).state =
    match (store.clear s).result with
    | .ok _ => Store.emptyDocument
    | .error _ => persisted s

/-- A document in memory whose store fails as planned. -/
structure Flaky where
  document : Json
  /-- Whether each operation to come fails; none fails beyond the plan. -/
  plan : List Bool
  deriving Repr

namespace Flaky

/-- Goes on to the next operation of the plan, and fails if that one is to fail. -/
def proceed : Act Flaky Unit := fun flaky =>
  ⟨if flaky.plan.headD false then .error Memory.fault else .ok (),
    { flaky with plan := flaky.plan.tail }, [], []⟩

def load : Act Flaky Json := do
  proceed
  return (← Act.get).document

def save (document : Json) : Act Flaky Unit := do
  proceed
  Act.modify fun flaky => { flaky with document }

def store : Store Flaky where
  load
  save
  clear := save Store.emptyDocument

theorem save_spec (flaky : Flaky) (next : Json) : (save next flaky).state.document =
    match (save next flaky).result with
    | .ok _ => next
    | .error _ => flaky.document := by
  unfold save
  rw [Act.state_bind, Act.result_bind]
  unfold proceed
  dsimp only
  cases flaky.plan.headD false with
  | true => rfl
  | false => rfl

/-- Whatever the plan, no operation is done by halves. -/
theorem isAtomic : store.IsAtomic Flaky.document where
  load_state flaky := by
    show (load flaky).state.document = flaky.document
    unfold load
    rw [Act.state_bind]
    unfold proceed
    dsimp only
    cases flaky.plan.headD false with
    | true => rfl
    | false => rfl
  load_result {flaky document} h := by
    obtain ⟨_, hproceed, h⟩ := Act.result_bind_eq_ok.1 h
    exact (Except.ok.inj h).symm
  save := save_spec
  clear flaky := save_spec flaky Store.emptyDocument

end Flaky

end CodeReview
