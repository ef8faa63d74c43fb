/-
Scores with a half going up. The shares of a score are computed and added in floating point, each step off
by so little that only a score halfway between two integers can come out wrong, and then by being one too
low (`floor_score`). With the percentages that are off in the same way this says where the metrics of a
text are rounded as they should be (`rounds_halfUp`).
-/
import CodeReview.Proofs.Metrics.Percent
import CodeReview.Proofs.Metrics.Shares

namespace CodeReview

open Double (rounded)
open Result

namespace Measure

/-! ## Scores -/

section Score

variable {a b c d m : ℤ}

theorem qualityScore_eq_floor (hc : |c| ≤ 1000000) (hm : |m| ≤ 1000000) (hd : |d| ≤ 1000000) :
    qualityScore (.int c) (.int m) (.int d) =
      .ok ⌊rounded (scoreSum (max 0 (100 - 5 * c)) m (max 0 (100 - d)) + 1 / 2)⌋ := by
  obtain ⟨hcLow, -⟩ := abs_le.1 hc
  obtain ⟨hdLow, -⟩ := abs_le.1 hd
  exact (qualityScore_eq_floor_of_le (n := 6000000) (by norm_num) (by omega) (hm.trans (by norm_num))
    (by omega)).1

/-! ### Errors of the shares and of their sum -/

/-- Half the last place of the numbers below 2 to the 23, which all that is computed of a score stays
below. -/
def scorePlace : ℚ := 2 ^ (-30 : ℤ) / 2

theorem scorePlace_le : scorePlace ≤ 1 / 10000 := by
  unfold scorePlace
  norm_num

/-- Rounding below 2 to the 23 adds half a last place to an error. -/
theorem abs_rounded_sub_le_scorePlace {x y ε : ℚ} (h : |x - y| ≤ ε) (hrange : |y| + ε < 8388608) :
    |rounded x - y| ≤ ε + scorePlace :=
  Double.abs_rounded_sub_le_add (e := -30) (by norm_num) h (hrange.trans_eq (by norm_num))

theorem abs_share_sub_le {w v : ℚ} (ha : |a| ≤ 6000000) (hw : |w - v| ≤ 1 / 2 ^ 54) (hv : |v| ≤ 1 / 2) :
    |rounded (a * w) - a * v| ≤ 2 * scorePlace := by
  have ha' : |(a : ℚ)| ≤ 6000000 := by exact_mod_cast ha
  have hweight : |a * w - a * v| ≤ scorePlace := by
    rw [← mul_sub, abs_mul]
    calc |(a : ℚ)| * |w - v| ≤ 6000000 * (1 / 2 ^ 54) :=
          mul_le_mul ha' hw (abs_nonneg _) (by norm_num)
      _ ≤ scorePlace := by
          unfold scorePlace
          norm_num
  have hexact : |a * v| ≤ 3000000 := by
    rw [abs_mul]
    calc |(a : ℚ)| * |v| ≤ 6000000 * (1 / 2) := mul_le_mul ha' hv (abs_nonneg _) (by norm_num)
      _ = 3000000 := by norm_num
  have hplace := scorePlace_le
  rw [two_mul]
  exact abs_rounded_sub_le_scorePlace hweight (by linarith)

theorem abs_rounded_add_sub_le {x y v w ε η : ℚ} (hx : |x - v| ≤ ε) (hy : |y - w| ≤ η)
    (hrange : |v + w| + (ε + η) < 8388608) : |rounded (x + y) - (v + w)| ≤ ε + η + scorePlace := by
  refine abs_rounded_sub_le_scorePlace ?_ hrange
  rw [add_sub_add_comm]
  exact (abs_add_le _ _).trans (add_le_add hx hy)

/-- The exact sum of the shares. -/
def exactScore (complexityRest maintainability duplicationRest : ℤ) : ℚ :=
  (3 * complexityRest + 4 * maintainability + 3 * duplicationRest : ℤ) / 10

/-- The sum of the shares is off by little. -/
theorem abs_scoreSum_sub_le (ha : |a| ≤ 6000000) (hm : |m| ≤ 1000000) (hb : |b| ≤ 6000000) :
    |scoreSum a m b - exactScore a m b| ≤ 8 * scorePlace := by
  have hthree : |threeTenths - 3 / 10| ≤ 1 / 2 ^ 54 := by
    unfold threeTenths
    norm_num [abs_le]
  have hfour : |fourTenths - 4 / 10| ≤ 1 / 2 ^ 54 := by
    unfold fourTenths
    norm_num [abs_le]
  have hfirst := abs_share_sub_le ha hthree (by norm_num [abs_le])
  have hsecond := abs_share_sub_le (hm.trans (by norm_num)) hfour (by norm_num [abs_le])
  have hthird := abs_share_sub_le hb hthree (by norm_num [abs_le])
  have hplace := scorePlace_le
  obtain ⟨ha, ha'⟩ := abs_le.1 (show |(a : ℚ)| ≤ 6000000 by exact_mod_cast ha)
  obtain ⟨hm, hm'⟩ := abs_le.1 (show |(m : ℚ)| ≤ 1000000 by exact_mod_cast hm)
  obtain ⟨hb, hb'⟩ := abs_le.1 (show |(b : ℚ)| ≤ 6000000 by exact_mod_cast hb)
  have hboth : |(a * (3 / 10) + m * (4 / 10) : ℚ)| ≤ 3000000 := by
    rw [abs_le]
    constructor <;> linarith
  have hall : |(a * (3 / 10) + m * (4 / 10) + b * (3 / 10) : ℚ)| ≤ 6000000 := by
    rw [abs_le]
    constructor <;> linarith
  have hsum := abs_rounded_add_sub_le hfirst hsecond (by linarith)
  have htotal := abs_rounded_add_sub_le hsum hthird (by linarith)
  have hexact : exactScore a m b = a * (3 / 10) + m * (4 / 10) + b * (3 / 10) := by
    unfold exactScore
    push_cast
    ring
  rw [hexact]
  refine htotal.trans_eq ?_
  ring

/-- A score is off by little before the fraction is dropped. -/
theorem abs_rounded_scoreSum_sub_le (ha : |a| ≤ 6000000) (hm : |m| ≤ 1000000) (hb : |b| ≤ 6000000) :
    |rounded (scoreSum a m b + 1 / 2) - (exactScore a m b + 1 / 2)| ≤ 9 * scorePlace := by
  have hsum := abs_scoreSum_sub_le ha hm hb
  have hplace := scorePlace_le
  obtain ⟨ha, ha'⟩ := abs_le.1 (show |(a : ℚ)| ≤ 6000000 by exact_mod_cast ha)
  obtain ⟨hm, hm'⟩ := abs_le.1 (show |(m : ℚ)| ≤ 1000000 by exact_mod_cast hm)
  obtain ⟨hb, hb'⟩ := abs_le.1 (show |(b : ℚ)| ≤ 6000000 by exact_mod_cast hb)
  have hexact : |exactScore a m b + 1 / 2| ≤ 6000000 := by
    unfold exactScore
    push_cast
    rw [abs_le]
    constructor <;> linarith
  have hhalf : |scoreSum a m b + 1 / 2 - (exactScore a m b + 1 / 2)| ≤ 8 * scorePlace := by
    rwa [add_sub_add_right_eq_sub]
  refine (abs_rounded_sub_le_scorePlace hhalf (by linarith)).trans_eq ?_
  ring

/-- The score of what is left of the points, a half going up. -/
def halfUpScore (complexityRest maintainability duplicationRest : ℤ) : ℤ :=
  (3 * complexityRest + 4 * maintainability + 3 * duplicationRest + 5) / 10

/-- The exact score lies halfway between two integers, and what is computed falls short of it. -/
def ScoreFallsShort (a m b : ℤ) : Prop :=
  (3 * a + 4 * m + 3 * b + 5) % 10 = 0 ∧ rounded (scoreSum a m b + 1 / 2) < halfUpScore a m b

instance : Decidable (ScoreFallsShort a m b) := inferInstanceAs (Decidable (_ ∧ _))

theorem exactScore_eq (a m b : ℤ) : exactScore a m b + 1 / 2 =
    halfUpScore a m b + ((3 * a + 4 * m + 3 * b + 5) % 10 : ℤ) / 10 := by
  have hdivision : ((3 * a + 4 * m + 3 * b + 5 : ℤ) : ℚ) =
      10 * halfUpScore a m b + ((3 * a + 4 * m + 3 * b + 5) % 10 : ℤ) := by
    exact_mod_cast (Int.mul_ediv_add_emod (3 * a + 4 * m + 3 * b + 5) 10).symm
  have hexact : exactScore a m b = ((3 * a + 4 * m + 3 * b + 5 : ℤ) - 5) / 10 := by
    unfold exactScore
    push_cast
    ring
  rw [hexact, hdivision]
  ring

/-- The computed score is the exact one, a half going up, or one less where it falls short. -/
theorem floor_score (ha : |a| ≤ 6000000) (hm : |m| ≤ 1000000) (hb : |b| ≤ 6000000) :
    ⌊rounded (scoreSum a m b + 1 / 2)⌋ =
      if ScoreFallsShort a m b then halfUpScore a m b - 1 else halfUpScore a m b := by
  have herror := abs_rounded_scoreSum_sub_le ha hm hb
  have hplace := scorePlace_le
  by_cases hhalf : (3 * a + 4 * m + 3 * b + 5) % 10 = 0
  · -- then the exact value is the integer itself
    rw [exactScore_eq, hhalf, Int.cast_zero, zero_div, add_zero] at herror
    rw [floor_eq_ite_of_abs_sub_lt (herror.trans_lt (by linarith))]
    unfold ScoreFallsShort
    simp only [hhalf, true_and]
  · have hlow : (1 : ℚ) ≤ ((3 * a + 4 * m + 3 * b + 5) % 10 : ℤ) := by
      exact_mod_cast (show 1 ≤ (3 * a + 4 * m + 3 * b + 5) % 10 by omega)
    have hhigh : (((3 * a + 4 * m + 3 * b + 5) % 10 : ℤ) : ℚ) ≤ 9 := by
      exact_mod_cast (show (3 * a + 4 * m + 3 * b + 5) % 10 ≤ 9 by omega)
    rw [if_neg fun hshort => hhalf hshort.1]
    refine floor_eq_of_abs_sub_le herror ?_ ?_
    · rw [exactScore_eq]
      linarith
    · rw [exactScore_eq]
      linarith

end Score

/-! ## The metrics -/

/-- The percentage of repeated lines and the score of metrics up to a million are the exact ones, a half
going up, except where what is computed misses them. A score is then one less, and so is a percentage
unless there are huge numbers of lines. -/
theorem rounds_halfUp {text : List Char} {whole distinct : ℕ} (hwhole : (candidates text).length = whole)
    (hdistinct : (candidates text).toFinset.card = distinct) (hsome : 0 < whole) {c m d : ℤ}
    (hc : |c| ≤ 10 ^ 6) (hm : |m| ≤ 10 ^ 6) (hd : |d| ≤ 10 ^ 6) :
    (∃ percent, duplication text = .ok percent ∧
      |percent - halfUpPercent (whole - distinct) whole| ≤ 1 ∧
      (percent = halfUpPercent (whole - distinct) whole ↔
        halfUpPercent (whole - distinct) whole ≤ percentSum ((whole - distinct : ℕ) / whole) ∧
          percentSum ((whole - distinct : ℕ) / whole) < halfUpPercent (whole - distinct) whole + 1) ∧
      (whole < 2 ^ 44 ∨ (200 * (whole - distinct) + whole) % (2 * whole) = 0 →
        percent = if FallsShort (whole - distinct) whole
          then halfUpPercent (whole - distinct) whole - 1
          else halfUpPercent (whole - distinct) whole)) ∧
      qualityScore (.int c) (.int m) (.int d) =
        .ok (if ScoreFallsShort (max 0 (100 - 5 * c)) m (max 0 (100 - d))
          then halfUpScore (max 0 (100 - 5 * c)) m (max 0 (100 - d)) - 1
          else halfUpScore (max 0 (100 - 5 * c)) m (max 0 (100 - d))) := by
  subst hwhole hdistinct
  constructor
  · obtain ⟨hclose, hexact⟩ := floor_percentSum hsome (Nat.sub_le _ (candidates text).toFinset.card)
    refine ⟨_, duplication_eq_floor (List.ne_nil_of_length_pos hsome), ?_⟩
    rw [repeatedCount_eq]
    exact ⟨hclose, Int.floor_eq_iff, hexact⟩
  · norm_num at hc hm hd
    rw [qualityScore_eq_floor hc hm hd]
    obtain ⟨hcLow, hcHigh⟩ := abs_le.1 hc
    obtain ⟨hdLow, hdHigh⟩ := abs_le.1 hd
    rw [floor_score (by rw [abs_le]; omega) hm (by rw [abs_le]; omega)]

/-- Forty lines, twenty-four of them the same. -/
def fortyLines : List Char :=
  Text.unlines ((List.range 40).map fun i => "let value = ".toList ++ [Char.ofNat (97 + min i 16)])

/-- 23 lines of 40 repeat an earlier one, which is a half above 57, and the score of 18, 1 and 13 is a half
above 29. Neither half goes up. -/
theorem rounds_halfUp_of_short :
    (duplication fortyLines = .ok 57 ∧ halfUpPercent 23 40 = 58) ∧
      ScoreFallsShort 10 1 87 ∧ qualityScore (.int 18) (.int 1) (.int 13) = .ok 29 ∧
      halfUpScore 10 1 87 = 30 := by
  have hwhole : (candidates fortyLines).length = 40 := by decide +kernel
  have hdistinct : (candidates fortyLines).toFinset.card = 17 := by decide +kernel
  have hcomputed : qualityScore (.int 18) (.int 1) (.int 13) = .ok 29 := by decide +kernel
  obtain ⟨⟨percent, hpercent, -, -, hvalue⟩, hscore⟩ := @rounds_halfUp fortyLines 40 17 hwhole hdistinct
    (by norm_num) 18 1 13 (by norm_num) (by norm_num) (by norm_num)
  constructor
  · rw [hpercent, hvalue (.inl (by norm_num))]
    decide +kernel
  · refine ⟨?_, hcomputed, by decide⟩
    by_contra hright
    rw [hcomputed] at hscore
    have hthirty : (29 : ℤ) = halfUpScore 10 1 87 := (Except.ok.inj hscore).trans (if_neg hright)
    exact absurd hthirty (by decide)

end Measure

end CodeReview
