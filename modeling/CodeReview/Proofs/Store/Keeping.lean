/-
Stores that keep what they are given: no operation fails, and the document that is loaded is the one
that was saved last.
-/
import CodeReview.Proofs.Act
import CodeReview.Store.Memory

namespace CodeReview

/-- A store that never fails and keeps the document it was given last; `kept` says which document a
state holds. -/
structure Store.Keeps {σ : Type} (store : Store σ) (kept : σ → Json → Prop) : Prop where
  load {s : σ} {document : Json} (h : kept s document) :
    store.load.Yields s document (kept · document)
  save {s : σ} {document : Json} (h : kept s document) (next : Json) :
    (store.save next).Yields s () (kept · next)
  clear {s : σ} {document : Json} (h : kept s document) :
    store.clear.Yields s () (kept · Store.emptyDocument)

/-- A document in memory that is not made to fail is kept. -/
theorem Memory.keeps : Memory.store.Keeps fun memory document => memory = ⟨document, false, false⟩ where
  load h := by
    subst h
    exact ⟨rfl, rfl⟩
  save h next := by
    subst h
    exact ⟨rfl, rfl⟩
  clear h := by
    subst h
    exact ⟨rfl, rfl⟩

end CodeReview
