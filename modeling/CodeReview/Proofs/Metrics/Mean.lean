/-
Rounded averages. The average of integers lies between the least and the greatest of them. The integers
and the halves beside them are floating-point numbers unless they are huge, and rounding turns no two
numbers around, so what is computed of the average lies there too (`Timeline.averageOf_liesAmong`).
-/
import CodeReview.Proofs.Metrics.Score
import CodeReview.Proofs.Number.Errors

namespace CodeReview

open Double (rounded rounded_mono)
open Result

/-! ## Sums -/

theorem sumInt_eq_sum (values : List ℤ) : sumInt values = values.sum := by
  induction values with
  | nil => rfl
  | cons value values ih => rw [sumInt, List.sum_cons, ih]

theorem sumNat_eq_sum (values : List ℕ) : sumNat values = values.sum := by
  induction values with
  | nil => rfl
  | cons value values ih => rw [sumNat, List.sum_cons, ih]

theorem sumInt_perm {values values' : List ℤ} (h : values.Perm values') :
    sumInt values = sumInt values' := by
  rw [sumInt_eq_sum, sumInt_eq_sum, h.sum_eq]

/-! ## Between the least and the greatest -/

/-- Some of the values are not above the integer and some are not below it. -/
def LiesAmong (n : ℤ) (values : Set ℤ) : Prop := (∃ v ∈ values, v ≤ n) ∧ ∃ v ∈ values, n ≤ v

theorem LiesAmong.mono {n : ℤ} {values values' : Set ℤ} (hsub : values ⊆ values')
    (h : LiesAmong n values) : LiesAmong n values' := by
  obtain ⟨⟨v, hv, hvn⟩, w, hw, hnw⟩ := h
  exact ⟨⟨v, hsub hv, hvn⟩, w, hsub hw, hnw⟩

section Mean

variable {values : List ℤ}

/-- The average of some integers. -/
def mean (values : List ℤ) : ℚ := sumInt values / values.length

theorem sum_map_mean (hsome : values ≠ []) :
    (values.map fun _ => mean values).sum = (values.map (Int.cast : ℤ → ℚ)).sum := by
  have hlength : (values.length : ℚ) ≠ 0 := by simpa using hsome
  rw [List.map_const', List.sum_replicate, nsmul_eq_mul, ← Int.cast_list_sum]
  unfold mean
  rw [mul_div_cancel₀ _ hlength, sumInt_eq_sum]

/-- Not all of the values are above their average, nor all below it. -/
theorem exists_le_mean (hsome : values ≠ []) :
    (∃ v ∈ values, (v : ℚ) ≤ mean values) ∧ ∃ v ∈ values, mean values ≤ (v : ℚ) :=
  ⟨List.exists_le_of_sum_le hsome _ _ (sum_map_mean hsome).ge,
    List.exists_le_of_sum_le hsome _ _ (sum_map_mean hsome).le⟩

theorem rounded_add_half {v : ℤ} (h : |v| < 2 ^ 52) : rounded (v + 1 / 2) = v + 1 / 2 := by
  obtain ⟨hlow, hhigh⟩ := abs_lt.1 h
  refine Double.rounded_eq_self ⟨2 * v + 1, -1, ?_, by norm_num, ?_⟩
  · rw [abs_le]
    constructor <;> omega
  · push_cast
    rw [zpow_neg_one]
    ring

/-- Rounding a number to the nearest integer does not lead beyond an integer below it or above it. -/
theorem floor_rounded_bounds {q : ℚ} {v w : ℤ} (hv : |v| < 2 ^ 52) (hw : |w| < 2 ^ 52) (hvq : v ≤ q)
    (hqw : q ≤ w) : v ≤ ⌊rounded (q + 1 / 2)⌋ ∧ ⌊rounded (q + 1 / 2)⌋ ≤ w := by
  -- an integer and a half is a number itself, so the sum is not rounded across it
  have hlow : (v : ℚ) + 1 / 2 ≤ rounded (q + 1 / 2) := by
    rw [← rounded_add_half hv]
    exact rounded_mono (add_le_add_left hvq _)
  have hhigh : rounded (q + 1 / 2) ≤ (w : ℚ) + 1 / 2 := by
    rw [← rounded_add_half hw]
    exact rounded_mono (add_le_add_left hqw _)
  constructor
  · exact Int.le_floor.2 (by linarith)
  · refine Int.lt_add_one_iff.1 (Int.floor_lt.2 ?_)
    push_cast
    linarith

/-- Rounding to a floating-point number does not lead beyond an integer that is not huge either. -/
theorem rounded_bounds {q : ℚ} {v w : ℤ} (hv : |v| < 2 ^ 52) (hw : |w| < 2 ^ 52) (hvq : v ≤ q)
    (hqw : q ≤ w) : v ≤ rounded q ∧ rounded q ≤ w := by
  have hself {i : ℤ} (hi : |i| < 2 ^ 52) : rounded i = i :=
    Double.rounded_intCast (hi.le.trans (by norm_num))
  exact ⟨(hself hv).ge.trans (rounded_mono hvq), (rounded_mono hqw).trans (hself hw).le⟩

/-- The average of integers that are not huge can be computed, and rounded it lies among them. -/
theorem mean_spec {bound : ℤ} (hsome : values ≠ []) (hbound : bound < 2 ^ 52)
    (h : ∀ v ∈ values, |v| ≤ bound) :
    (Amount.int (sumInt values)).divideBy values.length = .ok (Double.round (mean values)) ∧
      (Double.round (mean values)).toRat? = some (rounded (mean values)) ∧
      |rounded (mean values)| ≤ bound ∧
      ∃ n, roundHalfUp (Double.round (mean values)) = .ok n ∧ LiesAmong n {v | v ∈ values} := by
  obtain ⟨⟨v, hv, hvq⟩, w, hw, hqw⟩ := exists_le_mean hsome
  have hmean : |mean values| ≤ bound := by
    have hlow : -(bound : ℚ) ≤ v := by exact_mod_cast (abs_le.1 (h v hv)).1
    have hhigh : (w : ℚ) ≤ bound := by exact_mod_cast (abs_le.1 (h w hw)).2
    rw [abs_le]
    constructor <;> linarith
  have hrounded := Double.abs_rounded_le (by omega) hmean
  have hwide : (bound : ℚ) ≤ 2 ^ 53 := by exact_mod_cast (by omega : bound ≤ 2 ^ 53)
  have hvalue := Double.toRat?_round_of_abs_le (hmean.trans hwide)
  have hlargest := hwide.trans Double.two_pow_le_largest
  refine ⟨?_, hvalue, hrounded, _,
    (roundHalfUp_eq (Double.isProper_round _) hvalue (hrounded.trans hlargest)).2, ?_⟩
  · rw [Amount.divideBy_int, if_neg]
    · rfl
    · exact not_le.2 ((hmean.trans hlargest).trans_lt Double.largest_lt_limit)
  · have hvBound := (h v hv).trans_lt hbound
    have hwBound := (h w hw).trans_lt hbound
    obtain ⟨hvRounded, hwRounded⟩ := rounded_bounds hvBound hwBound hvq hqw
    obtain ⟨hlow, hhigh⟩ := floor_rounded_bounds hvBound hwBound hvRounded hwRounded
    exact ⟨⟨v, hv, hlow⟩, w, hw, hhigh⟩

theorem Timeline.averageOf_liesAmong (hsome : values ≠ []) (h : ∀ v ∈ values, |v| < 2 ^ 52) :
    ∃ n, averageOf values = .ok n ∧ LiesAmong n {v | v ∈ values} := by
  obtain ⟨hmean, -, -, n, hn, hamong⟩ :=
    mean_spec hsome (sub_one_lt _) fun v hv => Int.le_sub_one_of_lt (h v hv)
  refine ⟨n, ?_, hamong⟩
  unfold averageOf
  rw [hmean, ok_bind, hn]

end Mean

end CodeReview
