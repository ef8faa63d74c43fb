/-
Lists without what they repeat. Each entry is kept once, so the entries that are left are those of the
set of all entries (`length_eraseDups`), and lists in another order keep the same ones (`eraseDups_perm`).
-/
import Mathlib.Data.Finset.Card
import Mathlib.Tactic

namespace CodeReview

variable {α : Type} [BEq α] [LawfulBEq α]

theorem nodup_eraseDups : ∀ entries : List α, entries.eraseDups.Nodup
  | [] => List.nodup_nil
  | entry :: entries => by
    rw [List.eraseDups_cons, List.nodup_cons, List.mem_eraseDups, List.mem_filter]
    refine ⟨fun h => by simp at h, nodup_eraseDups _⟩
termination_by entries => entries.length
decreasing_by exact Nat.lt_succ_of_le (List.length_filter_le ..)

theorem eraseDups_perm {entries entries' : List α} (h : entries.Perm entries') :
    entries.eraseDups.Perm entries'.eraseDups := by
  rw [List.perm_ext_iff_of_nodup (nodup_eraseDups _) (nodup_eraseDups _)]
  intro entry
  rw [List.mem_eraseDups, List.mem_eraseDups, h.mem_iff]

theorem length_eraseDups [DecidableEq α] (entries : List α) : entries.eraseDups.length = entries.toFinset.card := by
  have hset : entries.eraseDups.toFinset = entries.toFinset := by
    ext entry
    rw [List.mem_toFinset, List.mem_toFinset, List.mem_eraseDups]
  rw [← hset, List.toFinset_card_of_nodup (nodup_eraseDups entries)]

end CodeReview
