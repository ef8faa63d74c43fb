/-
The score as it is computed. Each share is the exact one, rounded, and so is each of their sums
(`scoreSum`); the score is the integer below the last sum and a half (`qualityScore_eq_floor_of_le`). What
complexity and duplication leave of the hundred points counts for nothing once it is below zero, so only
numbers that leave many points or bring many need a bound.
-/
import CodeReview.Proofs.Metrics.Score
import CodeReview.Proofs.Number.Errors

namespace CodeReview.Measure

open Double (largest rounded)
open Result

/-- The sum of the shares of a score as it is computed. -/
def scoreSum (complexityRest maintainability duplicationRest : ℤ) : ℚ :=
  rounded (rounded (rounded (complexityRest * threeTenths) + rounded (maintainability * fourTenths)) +
    rounded (duplicationRest * threeTenths))

section Shares

variable {a b c d m i n : ℤ}

theorem doubleOfInt_eq_ok (h : |i| ≤ 2 ^ 53) :
    ∃ x, Amount.doubleOfInt i = .ok x ∧ x.toRat? = some (i : ℚ) := by
  have hbound : |(i : ℚ)| ≤ 2 ^ 53 := by exact_mod_cast h
  have hrange := (hbound.trans Double.two_pow_le_largest).trans_lt Double.largest_lt_limit
  refine ⟨Double.round i, ?_, ?_⟩
  · rw [Amount.doubleOfInt_eq, if_neg (not_le.2 hrange)]
  · rw [Double.toRat?_round_of_abs_le hbound, Double.rounded_intCast h]

/-- The points that are left, if any are, bring three tenths of them, as it is computed. -/
theorem remainingShare_eq (h : i ≤ 2 ^ 53) : ∃ x, remainingShare i = .ok x ∧ x.IsProper ∧
    x.toRat? = some (rounded ((max 0 i : ℤ) * threeTenths)) := by
  have hmax : |max 0 i| ≤ 2 ^ 53 := by
    rw [abs_of_nonneg (le_max_left 0 i)]
    exact max_le (by norm_num) h
  have hvalue : ∃ x, (positivePart (.int i)).toDouble = .ok x ∧ x.toRat? = some ((max 0 i : ℤ) : ℚ) := by
    rw [positivePart_int]
    split_ifs with hpos
    · rw [max_eq_right hpos.le] at hmax ⊢
      exact doubleOfInt_eq_ok hmax
    · rw [max_eq_left (not_lt.1 hpos)]
      exact ⟨.finite 0, rfl, rfl⟩
  obtain ⟨x, hx, hrat⟩ := hvalue
  have hlargest : |((max 0 i : ℤ) : ℚ)| ≤ largest := by
    refine le_trans ?_ Double.two_pow_le_largest
    exact_mod_cast hmax
  obtain ⟨hproper, hshare⟩ := share_spec hrat hlargest threeTenths_bounds.1 threeTenths_bounds.2
  refine ⟨_, ?_, hproper, hshare⟩
  unfold remainingShare
  rw [hx, decimal_three]
  rfl

/-- The maintainability brings four tenths of it, as it is computed. -/
theorem maintainabilityShare_eq (h : |m| ≤ 2 ^ 53) : ∃ x, maintainabilityShare (.int m) = .ok x ∧
    x.IsProper ∧ x.toRat? = some (rounded (m * fourTenths)) := by
  obtain ⟨x, hx, hrat⟩ := doubleOfInt_eq_ok h
  have hlargest : |(m : ℚ)| ≤ largest := by
    refine le_trans ?_ Double.two_pow_le_largest
    exact_mod_cast h
  obtain ⟨hproper, hshare⟩ := share_spec hrat hlargest fourTenths_bounds.1 fourTenths_bounds.2
  refine ⟨_, ?_, hproper, hshare⟩
  rw [maintainabilityShare_int, hx, decimal_four]
  rfl

/-- The sum of the shares is what their values say. -/
theorem scoreSum_spec {first second third : Double} (hn : 3 * n ≤ 2 ^ 53) (ha : |a| ≤ n) (hm : |m| ≤ n)
    (hb : |b| ≤ n) (hfirst : first.IsProper) (hsecond : second.IsProper) (hthird : third.IsProper)
    (hfirst' : first.toRat? = some (rounded (a * threeTenths)))
    (hsecond' : second.toRat? = some (rounded (m * fourTenths)))
    (hthird' : third.toRat? = some (rounded (b * threeTenths))) :
    ((first.add second).add third).IsProper ∧
      ((first.add second).add third).toRat? = some (scoreSum a m b) ∧
      |scoreSum a m b| ≤ (3 * n : ℤ) := by
  have hpos : 0 ≤ n := (abs_nonneg a).trans ha
  have hn' : ((3 * n : ℤ) : ℚ) ≤ 2 ^ 53 := by exact_mod_cast hn
  have hshare {i : ℤ} {w : ℚ} (hi : |i| ≤ n) (hw : 0 ≤ w ∧ w ≤ 1) : |rounded (i * w)| ≤ n := by
    have hi' : |(i : ℚ)| ≤ n := by exact_mod_cast hi
    refine Double.abs_rounded_le (by omega) ?_
    rw [abs_mul, abs_of_nonneg hw.1]
    exact (mul_le_of_le_one_right (abs_nonneg _) hw.2).trans hi'
  have hboth : |rounded (a * threeTenths) + rounded (m * fourTenths)| ≤ (2 * n : ℤ) := by
    refine (abs_add_le _ _).trans ?_
    push_cast
    linarith [hshare ha threeTenths_bounds, hshare hm fourTenths_bounds]
  have hsum := Double.abs_rounded_le (by omega) hboth
  have hall : |rounded (rounded (a * threeTenths) + rounded (m * fourTenths)) +
      rounded (b * threeTenths)| ≤ (3 * n : ℤ) := by
    refine (abs_add_le _ _).trans ?_
    push_cast at hsum ⊢
    linarith [hshare hb threeTenths_bounds]
  have hboth' : ((2 * n : ℤ) : ℚ) ≤ 2 ^ 53 := le_trans (by exact_mod_cast (by omega)) hn'
  have hadd : (first.add second).toRat? =
      some (rounded (rounded (a * threeTenths) + rounded (m * fourTenths))) := by
    rw [Double.toRat?_add hfirst hsecond hfirst' hsecond',
      Double.toRat?_round_of_abs_le (hboth.trans hboth')]
  refine ⟨Double.isProper_add (Double.isProper_add hfirst hsecond) hthird, ?_,
    Double.abs_rounded_le hn hall⟩
  rw [Double.toRat?_add (Double.isProper_add hfirst hsecond) hthird hadd hthird',
    Double.toRat?_round_of_abs_le (hall.trans hn')]
  rfl

/-- The score is the integer below the sum of the shares and a half. -/
theorem qualityScore_eq_floor_of_le (hn : 3 * n ≤ 2 ^ 53) (hc : 100 - 5 * c ≤ n) (hm : |m| ≤ n)
    (hd : 100 - d ≤ n) :
    qualityScore (.int c) (.int m) (.int d) =
        .ok ⌊rounded (scoreSum (max 0 (100 - 5 * c)) m (max 0 (100 - d)) + 1 / 2)⌋ ∧
      |scoreSum (max 0 (100 - 5 * c)) m (max 0 (100 - d))| ≤ (3 * n : ℤ) := by
  have hpos : 0 ≤ n := (abs_nonneg m).trans hm
  obtain ⟨first, hfirst, hfirstProper, hfirstRat⟩ := @remainingShare_eq (100 - 5 * c) (by omega)
  obtain ⟨second, hsecond, hsecondProper, hsecondRat⟩ := @maintainabilityShare_eq m (by omega)
  obtain ⟨third, hthird, hthirdProper, hthirdRat⟩ := @remainingShare_eq (100 - d) (by omega)
  have hrest {i : ℤ} (hi : i ≤ n) : |max 0 i| ≤ n := by
    rw [abs_of_nonneg (le_max_left 0 i)]
    exact max_le hpos hi
  obtain ⟨hproper, hvalue, hbound⟩ := scoreSum_spec hn (hrest hc) hm (hrest hd) hfirstProper
    hsecondProper hthirdProper hfirstRat hsecondRat hthirdRat
  have hlargest : ((3 * n : ℤ) : ℚ) ≤ largest :=
    le_trans (by exact_mod_cast hn) Double.two_pow_le_largest
  refine ⟨?_, hbound⟩
  rw [qualityScore_eq, mul_comm c 5, hfirst, ok_bind, hsecond, ok_bind, hthird, ok_bind]
  exact (roundHalfUp_eq hproper hvalue (hbound.trans hlargest)).2

end Shares

end CodeReview.Measure
