/-
The metrics of a text are on their scales. Over floating-point numbers the one thing that can go wrong is a
count beyond their range, and no text that fits into any memory has so many words and operators
(`ofText_isBounded`).
-/
import CodeReview.Proofs.Metrics.Arithmetic
import CodeReview.Proofs.Metrics.Percent
import CodeReview.Proofs.Metrics.Scale
import CodeReview.Proofs.Metrics.Mean
import CodeReview.Proofs.Pattern.Counting
import Mathlib.Analysis.SpecialFunctions.Log.Base

namespace CodeReview

open Double (limit rounded)
open Result

namespace Measure

/-! ## Counts -/

theorem complexity_le (text : List Char) : complexity text ≤ 2 * text.length + 3 := by
  have hwords := branchWordPattern.length_all_le text
  have hoperators := branchOperatorPattern.length_all_le text
  unfold complexity
  omega

theorem vocabulary_le (text : List Char) : vocabulary text ≤ 2 * text.length + 2 := by
  have hoperators := operatorPattern.length_all_le text
  have hoperands := operandPattern.length_all_le text
  unfold vocabulary
  omega

/-- A count is in the range of floating-point numbers unless it is huge. -/
theorem doubleOfInt_cases (n : ℕ) : Returns (Amount.doubleOfInt n) ∨
    Amount.doubleOfInt n = .error .outOfRange ∧ 2 ^ 1002 ≤ n := by
  rw [Amount.doubleOfInt_eq]
  split_ifs with hlarge
  · refine .inr ⟨rfl, ?_⟩
    by_contra hsmall
    have hlimit : (2 : ℚ) ^ 1002 < limit :=
      calc (2 : ℚ) ^ 1002 = 2 ^ 32 * 2 ^ 970 := by rw [← pow_add]
        _ < (2 ^ 54 - 1) * 2 ^ 970 := mul_lt_mul_of_pos_right (by norm_num) (by positivity)
    have hcount : (n : ℚ) < ((2 ^ 1002 : ℕ) : ℚ) := Nat.cast_lt.2 (not_le.1 hsmall)
    rw [Nat.cast_pow, Nat.cast_ofNat] at hcount
    rw [Int.cast_natCast, abs_of_nonneg (Nat.cast_nonneg n)] at hlarge
    exact absurd (hcount.trans hlimit) (not_lt.2 hlarge)
  · exact .inl (returns_ok _)

/-! ## Rounding -/

theorem clamp_spec (x : Double) : ∃ q, clamp x = .finite q ∧ 0 ≤ q ∧ q ≤ 100 := by
  cases x with
  | finite value =>
    unfold clamp
    dsimp only
    split_ifs with hpos hsmall
    · exact ⟨value, rfl, (of_decide_eq_true hpos).le, (of_decide_eq_true hsmall).le⟩
    · exact ⟨100, rfl, by norm_num, le_refl 100⟩
    · exact ⟨0, rfl, le_refl 0, by norm_num⟩
    · exact ⟨100, rfl, by norm_num, le_refl 100⟩
  | negZero => exact ⟨0, by decide +kernel, le_refl 0, by norm_num⟩
  | infinity negative =>
    cases negative with
    | true => exact ⟨0, by decide +kernel, le_refl 0, by norm_num⟩
    | false => exact ⟨100, by decide +kernel, by norm_num, le_refl 100⟩
  | nan => exact ⟨0, by decide +kernel, le_refl 0, by norm_num⟩

/-- A number on the scale and a half, rounded, is not beyond the scale and a half. -/
theorem isOnScale_floor_rounded {q : ℚ} (hlow : 0 ≤ q) (hhigh : q ≤ 100) :
    IsOnScale ⌊rounded (q + 1 / 2)⌋ :=
  floor_rounded_bounds (by norm_num) (by norm_num) (by exact_mod_cast hlow) (by exact_mod_cast hhigh)

/-- Whatever is brought into the range of the scale can be rounded to an integer on it. -/
theorem roundHalfUp_clamp (x : Double) : ∃ n, roundHalfUp (clamp x) = .ok n ∧ IsOnScale n := by
  obtain ⟨q, hclamp, hlow, hhigh⟩ := clamp_spec x
  have hsum : ((Double.finite q).add .half).toRat? = some (rounded (q + 1 / 2)) := by
    have hadd : (Double.finite q).add .half = Double.round (q + 1 / 2) := by
      show Double.round (q + mkRat 1 2) = _
      rw [Rat.mkRat_eq_div, Int.cast_one, Nat.cast_ofNat]
    rw [hadd]
    refine Double.toRat?_round_of_abs_le ?_
    rw [abs_of_nonneg (by positivity)]
    linarith
  refine ⟨_, ?_, isOnScale_floor_rounded hlow hhigh⟩
  rw [hclamp]
  exact floor_eq_of_toRat? hsum

/-! ## The metrics of a text -/

/-- A number that is above zero has a logarithm. -/
theorem returns_log {x : Double} (h : (Double.finite 0).lt x = true) : Returns x.log := by
  cases x with
  | finite value => exact ⟨_, if_pos (of_decide_eq_true h)⟩
  | negZero => cases h
  | infinity negative =>
    cases negative with
    | true => cases h
    | false => exact returns_ok _
  | nan => cases h

/-- Unless the text is longer than any, its maintainability can be computed and is on its scale. -/
theorem double_maintainability_cases (text : List Char) :
    (∃ m, Arithmetic.double.maintainability text (complexity text) = .ok m ∧ IsOnScale m) ∨
      Arithmetic.double.maintainability text (complexity text) = .error .outOfRange ∧
        2 ^ 1000 ≤ text.length := by
  have hlines : 0 < (Text.lines text).length :=
    List.length_pos_iff.2 (Text.splitOnChar_ne_nil '\n' text)
  have hinformation : Returns (Arithmetic.double.log2OfInt (vocabulary text + 1)) :=
    ⟨_, if_pos (by omega)⟩
  have hlong : Returns (Arithmetic.double.logOfInt (Text.lines text).length) :=
    ⟨_, if_pos (Int.natCast_pos.2 hlines)⟩
  have hvolume (volume : Double) : Returns (Arithmetic.double.logVolume volume) := by
    unfold Arithmetic.logVolume
    rw [Arithmetic.double_decimals.1]
    split_ifs with hlt
    · exact returns_log hlt
    · exact returns_ok _
  have hcount {n : ℕ} {fault : Fault} (hn : n ≤ 2 * text.length + 3)
      (hfault : Arithmetic.double.ofInt n = .error fault) :
      fault = .outOfRange ∧ 2 ^ 1000 ≤ text.length := by
    rcases doubleOfInt_cases n with ⟨x, hx⟩ | ⟨hrange, hlarge⟩
    · cases hfault.symm.trans hx
    · exact ⟨Except.error.inj (hfault.symm.trans hrange), by omega⟩
  -- the vocabulary and the complexity are in range, or the text is too long
  unfold Arithmetic.maintainability
  rcases Arithmetic.maintainabilityIndex_cases (c := complexity text) hinformation hvolume hlong with
    ⟨index, hindex⟩ | ⟨fault, hfault, hindex⟩
  · obtain ⟨m, hm, hscale⟩ := roundHalfUp_clamp index
    refine .inl ⟨m, ?_, hscale⟩
    rw [hindex, ok_bind, Arithmetic.double_clamp, Arithmetic.double_roundHalfUp, hm]
  · obtain ⟨rfl, hlength⟩ : fault = .outOfRange ∧ 2 ^ 1000 ≤ text.length :=
      hfault.elim (hcount (Nat.le_succ_of_le (vocabulary_le text))) (hcount (complexity_le text))
    refine .inr ⟨?_, hlength⟩
    rw [hindex]
    rfl

theorem duplication_isOnScale (text : List Char) :
    ∃ d, duplication text = .ok d ∧ IsOnScale d := by
  by_cases hsome : candidates text = []
  · refine ⟨0, ?_, by decide⟩
    unfold duplication
    dsimp only
    rw [hsome]
    rfl
  · have hpos : 0 ≤ (repeatedCount (candidates text) : ℚ) / (candidates text).length := by positivity
    obtain ⟨hlow, hhigh⟩ := rounded_percent_bounds hpos (share_le_one (Nat.sub_le _ _))
    exact ⟨_, duplication_eq_floor hsome, isOnScale_floor_rounded hlow hhigh⟩

/-- The metrics of a text that is not longer than any can be computed. -/
theorem returns_ofText {text : List Char} (h : text.length < 2 ^ 1000) : Returns (Metrics.ofText text) := by
  obtain ⟨m, hm, hmScale⟩ := (double_maintainability_cases text).resolve_right
    fun hlong => absurd hlong.2 (not_le.2 h)
  obtain ⟨d, hd, hdScale⟩ := duplication_isOnScale text
  obtain ⟨score, hscore, -⟩ := qualityScore_onScale (c := complexity text) (Int.natCast_nonneg _)
    hmScale.1 hmScale.2 hdScale.1
  rw [Arithmetic.double_maintainability] at hm
  refine ⟨⟨complexity text, m, d, linesOfCode text, score⟩, ?_⟩
  unfold Metrics.ofText
  dsimp only
  rw [hm, ok_bind, hd, ok_bind, hscore]
  rfl

/-- Over the real numbers, with any functions for the logarithms of positive numbers, every text has
metrics, and they are on their scales. Over floating-point numbers, where the computation is the one that
runs, the same holds; only of a text longer than any there is are the counts out of range. No division by
zero and no logarithm of a number that has none is ever come to. -/
theorem ofText_isBounded (text : List Char) :
    (∀ log log2 : {x : ℝ // 0 < x} → ℝ, ∃ m,
        (Arithmetic.exact log log2).ofText text = .ok m ∧ m.IsBounded text) ∧
      Arithmetic.double.ofText text = Metrics.ofText text ∧
      ((∃ m, Metrics.ofText text = .ok m ∧ m.IsBounded text) ∨
        Metrics.ofText text = .error .outOfRange ∧ 2 ^ 1000 ≤ text.length) := by
  refine ⟨fun log log2 => Arithmetic.exact_ofText log log2 text, Arithmetic.double_ofText text, ?_⟩
  rw [← Arithmetic.double_ofText]
  rcases double_maintainability_cases text with hmaintainability | ⟨hfault, hlength⟩
  · refine .inl (Arithmetic.exists_isBounded hmaintainability ?_ ?_)
    · rw [Arithmetic.double_duplication]
      exact duplication_isOnScale text
    · intro c m d hc hm hd
      rw [Arithmetic.double_qualityScore]
      exact qualityScore_onScale hc hm.1 hm.2 hd.1
  · refine .inr ⟨?_, hlength⟩
    unfold Arithmetic.ofText
    dsimp only
    rw [hfault]
    rfl

/-- The logarithms of the real numbers, and a text that branches. -/
theorem ofText_isBounded_of_log : ∃ m, (Arithmetic.exact (fun x => Real.log x) fun x =>
    Real.logb 2 x).ofText "if (a && b) return total\n".toList = .ok m ∧
      m.IsBounded "if (a && b) return total\n".toList :=
  (ofText_isBounded _).1 _ _

end Measure

end CodeReview
