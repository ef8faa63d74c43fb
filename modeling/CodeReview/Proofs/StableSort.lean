/-
Sorting by a key keeps apart what has different keys and leaves the order of what has the same one
alone. These two facts determine the sorted list (`mergeSort_eq_of_filter_eq`) and what comes first in a
part of it (`head?_filter_mergeSort`); where no key comes twice, the order before does not matter
(`mergeSort_eq_of_perm`).
-/
import Mathlib.Tactic

namespace CodeReview.StableSort

variable {α κ : Type} [LinearOrder κ] {key : α → κ}

/-- Sorted lists that agree on what has any one key are equal. -/
theorem eq_of_filter_eq : ∀ {l m : List α}, l.Pairwise (fun a b => key a ≤ key b) →
    m.Pairwise (fun a b => key a ≤ key b) →
    (∀ k, l.filter (key · = k) = m.filter (key · = k)) → l = m
  | [], [], _, _, _ => rfl
  | [], b :: m, _, _, h => by simpa using h (key b)
  | a :: l, [], _, _, h => by simpa using h (key a)
  | a :: l, b :: m, hl, hm, h => by
    rw [List.pairwise_cons] at hl hm
    have hb : b ∈ a :: l := List.mem_of_mem_filter (p := (key · = key b)) (by rw [h]; simp)
    have ha : a ∈ b :: m := List.mem_of_mem_filter (p := (key · = key a)) (by rw [← h]; simp)
    -- each head is a least element of the other list, so the two carry the same key
    have hab : key a ≤ key b := by
      rcases List.mem_cons.1 hb with rfl | hb
      · exact le_refl _
      · exact hl.1 _ hb
    have hba : key b ≤ key a := by
      rcases List.mem_cons.1 ha with rfl | ha
      · exact le_refl _
      · exact hm.1 _ ha
    have hkey : key b = key a := le_antisymm hba hab
    have hhead := h (key a)
    simp only [List.filter_cons, hkey, decide_true, if_true] at hhead
    obtain ⟨rfl, -⟩ := List.cons.inj hhead
    rw [eq_of_filter_eq hl.2 hm.2 fun k => ?_]
    have hk := h k
    simp only [List.filter_cons] at hk
    split at hk
    · exact (List.cons.inj hk).2
    · exact hk

theorem le_trans_decide {a b c : α} (hab : decide (key a ≤ key b) = true)
    (hbc : decide (key b ≤ key c) = true) : decide (key a ≤ key c) = true :=
  decide_eq_true ((of_decide_eq_true hab).trans (of_decide_eq_true hbc))

theorem le_total_decide (a b : α) : (decide (key a ≤ key b) || decide (key b ≤ key a)) = true := by
  simpa using le_total (key a) (key b)

theorem pairwise_mergeSort (key : α → κ) (l : List α) :
    (l.mergeSort fun a b => key a ≤ key b).Pairwise (fun a b => key a ≤ key b) :=
  (List.pairwise_mergeSort (fun _ _ _ => le_trans_decide) le_total_decide l).imp of_decide_eq_true

/-- What has one key keeps its order. -/
theorem filter_mergeSort (key : α → κ) (l : List α) (k : κ) :
    (l.mergeSort fun a b => key a ≤ key b).filter (key · = k) = l.filter (key · = k) := by
  set sorted := l.mergeSort fun a b => key a ≤ key b with hsorted
  have hsub : (l.filter (key · = k)).Sublist sorted := by
    refine List.sublist_mergeSort (fun _ _ _ => le_trans_decide) le_total_decide ?_
      List.filter_sublist
    refine List.pairwise_of_forall_mem_list fun a ha b hb => ?_
    have ha : key a = k := by simpa using (List.mem_filter.1 ha).2
    have hb : key b = k := by simpa using (List.mem_filter.1 hb).2
    rw [ha, hb]
    exact decide_eq_true (le_refl k)
  have hfilter := hsub.filter (key · = k)
  rw [List.filter_filter] at hfilter
  simp only [Bool.and_self] at hfilter
  have hperm : (sorted.filter (key · = k)).Perm (l.filter (key · = k)) :=
    (List.mergeSort_perm l _).filter _
  exact (hfilter.eq_of_length hperm.length_eq.symm).symm

/-- A sorted list that agrees with `l` on what has any one key is `l` sorted. -/
theorem mergeSort_eq_of_filter_eq (key : α → κ) {l m : List α}
    (hm : m.Pairwise (fun a b => key a ≤ key b))
    (h : ∀ k, l.filter (key · = k) = m.filter (key · = k)) :
    (l.mergeSort fun a b => key a ≤ key b) = m :=
  eq_of_filter_eq (pairwise_mergeSort key l) hm fun k => (filter_mergeSort key l k).trans (h k)

/-- What is the same up to order is sorted alike if no key comes twice. -/
theorem mergeSort_eq_of_perm (key : α → κ) {l m : List α} (h : l.Perm m) (hkeys : (l.map key).Nodup) :
    (l.mergeSort fun a b => key a ≤ key b) = m.mergeSort fun a b => key a ≤ key b := by
  refine mergeSort_eq_of_filter_eq key (pairwise_mergeSort key m) fun k => ?_
  rw [filter_mergeSort]
  -- one element at most has the key, so there is nothing to reorder
  have hsame : (l.filter (key · = k)).map key = List.replicate (l.filter (key · = k)).length k := by
    refine List.eq_replicate_iff.2 ⟨List.length_map _, fun x hx => ?_⟩
    obtain ⟨a, ha, rfl⟩ := List.mem_map.1 hx
    simpa using (List.mem_filter.1 ha).2
  have hfew : (l.filter (key · = k)).length ≤ 1 := by
    rw [← List.nodup_replicate (a := k), ← hsame]
    exact hkeys.sublist (List.filter_sublist.map key)
  have hperm := h.filter (key · = k)
  rcases hl : l.filter (key · = k) with _ | ⟨a, _ | ⟨b, rest⟩⟩
  · rw [hl] at hperm
    exact hperm.nil_eq
  · rw [hl] at hperm
    exact List.singleton_perm.1 hperm
  · rw [hl] at hfew
    exact absurd hfew (by simp)

/-- The first element of a list is the first of what sorting does not put before it. -/
theorem head?_filter_mergeSort (key : α → κ) (a : α) (l : List α) :
    (((a :: l).mergeSort fun a b => key a ≤ key b).filter (key a ≤ key ·)).head? = some a := by
  have hsorted := (pairwise_mergeSort key (a :: l)).filter (key a ≤ key ·)
  have hties := filter_mergeSort key (a :: l) (key a)
  -- what ties with the first element is among what is not put before it
  have hamong : ((a :: l).mergeSort fun a b => key a ≤ key b).filter (key · = key a) =
      (((a :: l).mergeSort fun a b => key a ≤ key b).filter (key a ≤ key ·)).filter
        (key · = key a) := by
    rw [List.filter_filter]
    refine List.filter_congr fun b _ => ?_
    rw [Bool.eq_iff_iff]
    simpa using fun h : key b = key a => h ▸ le_refl (key b)
  rw [hamong, List.filter_cons_of_pos (by simp)] at hties
  have hlater : ∀ b ∈ ((a :: l).mergeSort fun a b => key a ≤ key b).filter (key a ≤ key ·),
      key a ≤ key b := fun b hb => by simpa using (List.mem_filter.1 hb).2
  generalize ((a :: l).mergeSort fun a b => key a ≤ key b).filter (key a ≤ key ·) = after
    at hsorted hties hlater
  cases after with
  | nil => cases hties
  | cons b after =>
    have ha : a ∈ b :: after :=
      List.mem_of_mem_filter (p := (key · = key a)) (by rw [hties]; exact List.mem_cons_self ..)
    have hba : key b ≤ key a := by
      rcases List.mem_cons.1 ha with rfl | ha
      · exact le_refl _
      · exact (List.pairwise_cons.1 hsorted).1 _ ha
    have hkey : key b = key a := le_antisymm hba (hlater b (List.mem_cons_self ..))
    rw [List.filter_cons_of_pos (by simpa using hkey)] at hties
    exact congrArg some (List.cons.inj hties).1

end CodeReview.StableSort
