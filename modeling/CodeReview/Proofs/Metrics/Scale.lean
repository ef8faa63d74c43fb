/-
The scale of scores. Rounding never turns two numbers around, so of two sums of shares the one with the
better metrics is not below the other, and neither is its score (`computedScore_mono`). Metrics on their
scales have scores between those of the worst and of the best, which are 0 and 100
(`qualityScore_ordered`).
-/
import CodeReview.Proofs.Metrics.Shares

namespace CodeReview.Measure

open Double (rounded rounded_mono)

/-- The score of what is left of the points, as it is computed. -/
def computedScore (complexityRest maintainability duplicationRest : ℤ) : ℤ :=
  ⌊rounded (scoreSum complexityRest maintainability duplicationRest + 1 / 2)⌋

section Order

variable {a b m a' b' m' c d n : ℤ}

theorem scoreSum_mono (ha : a ≤ a') (hm : m ≤ m') (hb : b ≤ b') :
    scoreSum a m b ≤ scoreSum a' m' b' := by
  have hshare {i j : ℤ} {w : ℚ} (hij : i ≤ j) (hw : 0 ≤ w) : rounded (i * w) ≤ rounded (j * w) :=
    rounded_mono (mul_le_mul_of_nonneg_right (by exact_mod_cast hij) hw)
  have hfirst := hshare ha threeTenths_bounds.1
  have hsecond := hshare hm fourTenths_bounds.1
  have hthird := hshare hb threeTenths_bounds.1
  exact rounded_mono (add_le_add (rounded_mono (add_le_add hfirst hsecond)) hthird)

theorem computedScore_mono (ha : a ≤ a') (hm : m ≤ m') (hb : b ≤ b') :
    computedScore a m b ≤ computedScore a' m' b' :=
  Int.floor_mono (rounded_mono (add_le_add_left (scoreSum_mono ha hm hb) _))

theorem qualityScore_eq_computedScore (hn : 3 * n ≤ 2 ^ 53) (hc : 100 - 5 * c ≤ n) (hm : |m| ≤ n)
    (hd : 100 - d ≤ n) : qualityScore (.int c) (.int m) (.int d) =
      .ok (computedScore (max 0 (100 - 5 * c)) m (max 0 (100 - d))) :=
  (qualityScore_eq_floor_of_le hn hc hm hd).1

theorem abs_computedScore_le (hn : 3 * n + 1 ≤ 2 ^ 53) (h : |scoreSum a m b| ≤ (3 * n : ℤ)) :
    |computedScore a m b| ≤ 3 * n + 1 := by
  have hhalf : |scoreSum a m b + 1 / 2| ≤ (3 * n + 1 : ℤ) := by
    refine (abs_add_le _ _).trans ?_
    rw [abs_of_pos (by norm_num : (0 : ℚ) < 1 / 2)]
    push_cast at h ⊢
    linarith
  obtain ⟨hlow, hhigh⟩ := abs_le.1 (Double.abs_rounded_le hn hhalf)
  unfold computedScore
  rw [abs_le]
  constructor
  · refine Int.le_floor.2 ?_
    exact_mod_cast hlow
  · exact_mod_cast (Int.floor_le _).trans hhigh

/-- The worst metrics on their scales. -/
theorem computedScore_worst : computedScore 0 0 0 = 0 := by
  have hscore : qualityScore (.int 20) (.int 0) (.int 100) = .ok 0 := by decide +kernel
  have hcomputed : qualityScore (.int 20) (.int 0) (.int 100) = .ok (computedScore 0 0 0) :=
    qualityScore_eq_computedScore (n := 100) (by norm_num) (by norm_num) (by norm_num) (by norm_num)
  exact Except.ok.inj (hcomputed.symm.trans hscore)

/-- The best metrics on their scales. -/
theorem computedScore_best : computedScore 100 100 100 = 100 := by
  have hscore : qualityScore (.int 0) (.int 100) (.int 0) = .ok 100 := by decide +kernel
  have hcomputed : qualityScore (.int 0) (.int 100) (.int 0) = .ok (computedScore 100 100 100) :=
    qualityScore_eq_computedScore (n := 100) (by norm_num) (by norm_num) (by norm_num) (by norm_num)
  exact Except.ok.inj (hcomputed.symm.trans hscore)

/-- Metrics on their scales have a score, and it is on its scale. -/
theorem qualityScore_onScale (hc : 0 ≤ c) (hm : 0 ≤ m) (hm' : m ≤ 100) (hd : 0 ≤ d) :
    ∃ score, qualityScore (.int c) (.int m) (.int d) = .ok score ∧ 0 ≤ score ∧ score ≤ 100 := by
  have hhundred : |m| ≤ 100 := by
    rw [abs_of_nonneg hm]
    exact hm'
  refine ⟨_, qualityScore_eq_computedScore (n := 100) (by norm_num) (by omega) hhundred (by omega),
    ?_, ?_⟩
  · calc 0 = computedScore 0 0 0 := computedScore_worst.symm
      _ ≤ _ := computedScore_mono (le_max_left _ _) hm (le_max_left _ _)
  · calc _ ≤ computedScore 100 100 100 := computedScore_mono (by omega) hm' (by omega)
      _ = 100 := computedScore_best

end Order

/-- Of metrics up to 10 to the 12 the better ones do not have the lower score. The score of metrics on
their scales, however complex or repetitive the text is, lies between 0 and 100. -/
theorem qualityScore_ordered :
    (∀ c m d c' m' d' : ℤ, (∀ i ∈ [c, m, d, c', m', d'], |i| ≤ 10 ^ 12) →
        c ≤ c' → m' ≤ m → d ≤ d' →
        ∃ score score', qualityScore (.int c) (.int m) (.int d) = .ok score ∧
          qualityScore (.int c') (.int m') (.int d') = .ok score' ∧ score' ≤ score) ∧
      ∀ c m d : ℤ, 0 ≤ c → 0 ≤ m → m ≤ 100 → 0 ≤ d →
        ∃ score, qualityScore (.int c) (.int m) (.int d) = .ok score ∧ 0 ≤ score ∧ score ≤ 100 := by
  refine ⟨?_, fun c m d => qualityScore_onScale⟩
  intro c m d c' m' d' hbounds hc hm hd
  simp only [List.forall_mem_cons] at hbounds
  obtain ⟨hc₁, hm₁, hd₁, hc₂, hm₂, hd₂, -⟩ := hbounds
  norm_num at hc₁ hm₁ hd₁ hc₂ hm₂ hd₂
  obtain ⟨hcLow, -⟩ := abs_le.1 hc₁
  obtain ⟨hdLow, -⟩ := abs_le.1 hd₁
  have hspan : 3 * 6000000000000 ≤ (2 : ℤ) ^ 53 := by norm_num
  refine ⟨_, _, qualityScore_eq_computedScore hspan (by omega) (hm₁.trans (by norm_num)) (by omega),
    qualityScore_eq_computedScore hspan (by omega) (hm₂.trans (by norm_num)) (by omega), ?_⟩
  exact computedScore_mono (by omega) hm (by omega)

/-- Metrics far off their scales beside worse ones, and the score of a plain text. -/
theorem qualityScore_ordered_of_negative :
    (∃ score score', qualityScore (.int (-3)) (.int 250) (.int (-40)) = .ok score ∧
      qualityScore (.int 7) (.int (-5)) (.int (10 ^ 12)) = .ok score' ∧ score' ≤ score) ∧
      ∃ score, qualityScore (.int 3) (.int 81) (.int 25) = .ok score ∧ 0 ≤ score ∧ score ≤ 100 :=
  ⟨qualityScore_ordered.1 (-3) 250 (-40) 7 (-5) (10 ^ 12) (by decide) (by decide) (by decide) (by decide),
    qualityScore_ordered.2 3 81 25 (by decide) (by decide) (by decide) (by decide)⟩

end CodeReview.Measure
