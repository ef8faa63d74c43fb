/-
The averages of a workspace can always be computed. The metrics of a text are in the range of
floating-point numbers, or the text would have none (`Metrics.ofText_isMeasured`); so are their
averages, and the score of the averages (`Workspace.returns_combine`).
-/
import CodeReview.Proofs.Metrics.Score
import CodeReview.Proofs.Number.Errors
import CodeReview.Scan.Workspace

namespace CodeReview

open Double (limit largest rounded halfPlace)
open Result

/-- What is rounded to an integer is in range, and so is the integer. -/
theorem roundHalfUp_ok {x : Double} {n : ℤ} (hx : x.IsProper) (h : roundHalfUp x = .ok n) :
    |(n : ℚ)| ≤ largest ∧ ∃ q, x.toRat? = some q ∧ (0 ≤ q → 0 ≤ n) := by
  cases hq : x.toRat? with
  | none =>
    cases x with
    | finite value => cases hq
    | negZero => cases hq
    | infinity negative => cases h
    | nan => cases h
  | some q =>
    have habs := Double.abs_toRat?_le hx hq
    obtain ⟨n', hn', hbound⟩ := roundHalfUp_spec hx hq habs
    obtain ⟨-, hfloor⟩ := roundHalfUp_eq hx hq habs
    obtain rfl := Except.ok.inj (h.symm.trans hn')
    refine ⟨hbound, q, rfl, fun hpos => ?_⟩
    rw [Except.ok.inj (h.symm.trans hfloor)]
    exact Int.floor_nonneg.2 (Double.rounded_nonneg (by linarith))

/-! ## The metrics of a text -/

/-- Metrics that are in the range of floating-point numbers, none of them below zero but perhaps the
maintainability. -/
structure Metrics.IsMeasured (m : Metrics) : Prop where
  complexity_nonneg : 0 ≤ m.complexity
  complexity : |(m.complexity : ℚ)| < limit
  maintainability : |(m.maintainability : ℚ)| < limit
  duplication_nonneg : 0 ≤ m.duplication
  duplication : |(m.duplication : ℚ)| < limit

namespace Measure

theorem abs_lt_of_doubleOfInt {i : ℤ} {x : Double} (h : Amount.doubleOfInt i = .ok x) :
    |(i : ℚ)| < limit := by
  rw [Amount.doubleOfInt_eq] at h
  split_ifs at h with hlarge
  exact not_le.1 hlarge

theorem abs_lt_of_maintainability {text : List Char} {c m : ℤ}
    (h : maintainability text (.int c) = .ok m) : |(c : ℚ)| < limit := by
  unfold maintainability maintainabilityIndex at h
  obtain ⟨_, hindex, -⟩ := bind_eq_ok_iff.1 h
  obtain ⟨_, -, hindex⟩ := bind_eq_ok_iff.1 hindex
  obtain ⟨_, -, hindex⟩ := bind_eq_ok_iff.1 hindex
  obtain ⟨_, hdouble, -⟩ := bind_eq_ok_iff.1 hindex
  exact abs_lt_of_doubleOfInt hdouble

theorem duplication_spec {text : List Char} {d : ℤ} (h : duplication text = .ok d) :
    0 ≤ d ∧ |(d : ℚ)| < limit := by
  unfold duplication at h
  dsimp only at h
  split_ifs at h
  · obtain rfl := Except.ok.inj h
    rw [Int.cast_zero, abs_zero]
    exact ⟨le_refl 0, Double.limit_pos⟩
  · obtain ⟨share, hshare, hround⟩ := bind_eq_ok_iff.1 h
    rw [Amount.divideBy_int] at hshare
    split_ifs at hshare with hlarge
    obtain rfl := Except.ok.inj hshare
    have hvalue := Double.toRat?_round
      ((repeatedCount (candidates text) : ℤ) / (candidates text).length : ℚ)
    rw [if_neg hlarge] at hvalue
    obtain ⟨hproper, hproduct⟩ := Double.mul_spec (y := .finite 100) hvalue rfl
    obtain ⟨hbound, q, hq, hpos⟩ := roundHalfUp_ok hproper hround
    refine ⟨hpos ?_, hbound.trans_lt Double.largest_lt_limit⟩
    rw [hproduct, Double.toRat?_round] at hq
    split_ifs at hq
    rw [← Option.some.inj hq]
    refine Double.rounded_nonneg (mul_nonneg (Double.rounded_nonneg ?_) (by norm_num))
    positivity

end Measure

/-- The metrics of a text that has any are in range. -/
theorem Metrics.ofText_isMeasured {text : List Char} {m : Metrics} (h : ofText text = .ok m) :
    m.IsMeasured := by
  unfold ofText at h
  obtain ⟨maintained, hmaintained, h⟩ := bind_eq_ok_iff.1 h
  obtain ⟨duplicated, hduplicated, h⟩ := bind_eq_ok_iff.1 h
  obtain ⟨score, hscore, h⟩ := bind_eq_ok_iff.1 h
  obtain rfl := Except.ok.inj h
  obtain ⟨-, hrange, -⟩ := (Measure.returns_qualityScore_iff _ _ _).1 ⟨score, hscore⟩
  obtain ⟨hpos, hduplication⟩ := Measure.duplication_spec hduplicated
  exact ⟨Int.natCast_nonneg _, Measure.abs_lt_of_maintainability hmaintained, hrange, hpos,
    hduplication⟩

/-! ## Averages -/

theorem sumInt_nonneg {values : List ℤ} (h : ∀ v ∈ values, 0 ≤ v) : 0 ≤ sumInt values := by
  induction values with
  | nil => exact le_refl 0
  | cons v values ih =>
    obtain ⟨hv, hvalues⟩ := List.forall_mem_cons.1 h
    exact Int.add_nonneg hv (ih hvalues)

/-- The sum of some numbers in range is within their count times the range. -/
theorem abs_sumInt_lt {values : List ℤ} (hsome : values ≠ [])
    (h : ∀ v ∈ values, |(v : ℚ)| < limit) : |(sumInt values : ℚ)| < values.length * limit := by
  obtain ⟨l, hl⟩ : ∃ l : ℤ, limit = l := by
    refine ⟨(2 ^ 54 - 1) * 2 ^ 970, ?_⟩
    unfold limit halfPlace
    rw [Int.cast_mul, Int.cast_pow, Int.cast_ofNat]
    norm_num only
  have hbound : ∀ v ∈ values, |(v : ℚ)| ≤ limit - 1 := by
    intro v hv
    have hlt := h v hv
    rw [hl, ← Int.cast_abs] at hlt ⊢
    exact_mod_cast Int.le_sub_one_of_lt (by exact_mod_cast hlt)
  have hpos : (0 : ℚ) < values.length := by
    exact_mod_cast List.length_pos_of_ne_nil hsome
  refine (abs_sumInt_le hbound).trans_lt ?_
  exact mul_lt_mul_of_pos_left (sub_one_lt limit) hpos

namespace Workspace

/-- An average of metrics in range is in range, and not below zero if none of them is. -/
theorem average_spec {metrics : List Metrics} (part : Metrics → ℤ) (hsome : metrics ≠ [])
    (h : ∀ m ∈ metrics, |(part m : ℚ)| < limit) :
    ∃ x q, average metrics part = .ok x ∧ x.IsProper ∧ x.toRat? = some q ∧ |q| ≤ largest ∧
      ((∀ m ∈ metrics, 0 ≤ part m) → 0 ≤ q) := by
  have hpos : (0 : ℚ) < metrics.length := by
    exact_mod_cast List.length_pos_of_ne_nil hsome
  have hrange : |(sumInt (metrics.map part) / metrics.length : ℚ)| < limit := by
    rw [abs_div, abs_of_pos hpos, div_lt_iff₀ hpos, mul_comm]
    have hsum : |(sumInt (metrics.map part) : ℚ)| < (metrics.map part).length * limit :=
      abs_sumInt_lt (by simpa using hsome) (by simpa using h)
    rwa [List.length_map] at hsum
  refine ⟨_, _, ?_, Double.isProper_round (sumInt (metrics.map part) / metrics.length : ℚ), ?_,
    Double.abs_rounded_le_largest hrange, fun hnonneg => Double.rounded_nonneg ?_⟩
  · unfold average
    rw [Amount.divideBy_int, if_neg (not_le.2 hrange)]
  · rw [Double.toRat?_round, if_neg (not_le.2 hrange)]
  · refine div_nonneg ?_ hpos.le
    exact_mod_cast sumInt_nonneg (by simpa using hnonneg)

end Workspace

/-! ## The score of averages -/

namespace Measure

/-- What a number of points leaves of the hundred is in range, unless the number is far below zero. -/
theorem toDouble_positivePart_sub {lost : Double}
    (h : lost = .infinity false ∨
      ∃ q, lost.IsProper ∧ lost.toRat? = some q ∧ -2 ^ 53 ≤ q) :
    ∃ x a, (positivePart (.float ((Double.finite 100).sub lost))).toDouble = .ok x ∧
      x.toRat? = some a ∧ 0 ≤ a ∧ a ≤ largest := by
  have hpart (y : Double) : positivePart (.float y) =
      if (Double.finite 0).lt y then .float y else .float (.finite 0) := rfl
  rcases h with rfl | ⟨q, hproper, hq, hlow⟩
  · exact ⟨.finite 0, 0, rfl, rfl, le_refl 0, Double.largest_pos.le⟩
  · obtain ⟨hnegProper, hneg⟩ := Double.neg_spec hproper hq
    have hhundred : (Double.finite 100).IsProper := by
      show Double.round 100 = .finite 100
      decide +kernel
    have hrest : ((Double.finite 100).sub lost).toRat? = (Double.round (100 + -q)).toRat? :=
      Double.toRat?_add hhundred hnegProper rfl hneg
    have hlost := (abs_le.1 (Double.abs_toRat?_le hproper hq)).2
    have hrange : |100 + -q| < limit := by
      have := Double.one_le_halfPlace
      have hlarge : (100 : ℚ) + 2 ^ 53 ≤ largest := by
        unfold largest
        linarith
      rw [abs_lt]
      constructor <;> linarith [Double.largest_lt_limit]
    rw [Double.toRat?_round, if_neg (not_le.2 hrange)] at hrest
    rw [hpart]
    split_ifs with hlt
    · refine ⟨_, _, rfl, hrest, ?_, (le_abs_self _).trans (Double.abs_rounded_le_largest hrange)⟩
      rcases Double.eq_of_toRat? hrest with hvalue | ⟨-, hzero⟩
      · rw [hvalue] at hlt
        exact (of_decide_eq_true hlt).le
      · exact hzero.ge
    · exact ⟨.finite 0, 0, rfl, rfl, le_refl 0, Double.largest_pos.le⟩

theorem hundred_sub_float (lost : Double) :
    (Amount.int 100).sub (.float lost) = .ok (.float ((Double.finite 100).sub lost)) := by
  have hhundred : Amount.doubleOfInt 100 = .ok (.finite 100) := by decide +kernel
  show (Amount.doubleOfInt 100 >>= fun a => pure (Amount.float (a.sub lost))) = _
  rw [hhundred]
  rfl

/-- Five times a number that is not far below zero is not far below zero either. -/
theorem mul_five_cases {c : Double} {q : ℚ} (hc : c.toRat? = some q) (hlow : -2 ^ 50 ≤ q) :
    c.mul (.finite 5) = .infinity false ∨ ∃ r, (c.mul (.finite 5)).IsProper ∧
      (c.mul (.finite 5)).toRat? = some r ∧ -2 ^ 53 ≤ r := by
  rcases le_total 0 q with hpos | hneg
  · rcases Double.mul_nonneg_cases (y := .finite 5) hc rfl (mul_nonneg hpos (by norm_num)) with
      hlarge | ⟨r, hproper, hr, hr0⟩
    · exact .inl hlarge
    · exact .inr ⟨r, hproper, hr, le_trans (by norm_num) hr0⟩
  · have hbound : |q * 5| ≤ ((2 ^ 53 : ℤ) : ℚ) := by
      rw [abs_le]
      push_cast
      constructor <;> linarith
    obtain ⟨hproper, hproduct⟩ := Double.mul_spec (y := .finite 5) hc rfl
    rw [Double.toRat?_round_of_abs_le (by exact_mod_cast hbound)] at hproduct
    refine .inr ⟨_, hproper, hproduct, ?_⟩
    exact_mod_cast (abs_le.1 (Double.abs_rounded_le (le_refl _) hbound)).1

theorem duplicationShare_float {d : Double}
    (h : d = .infinity false ∨ ∃ q, d.IsProper ∧ d.toRat? = some q ∧ -2 ^ 53 ≤ q) :
    ∃ x s, duplicationShare (.float d) = .ok x ∧ x.IsProper ∧ x.toRat? = some s ∧ 0 ≤ s ∧
      s ≤ 5404319552844594 * halfPlace := by
  obtain ⟨y, a, hy, ha, ha0, halargest⟩ := toDouble_positivePart_sub h
  obtain ⟨hshareProper, s, hs, hbounds⟩ := threeTenths_share ha ha0 halargest
  refine ⟨_, s, ?_, hshareProper, hs, hbounds⟩
  unfold duplicationShare
  rw [hundred_sub_float, ok_bind, hy]
  rfl

theorem complexityShare_float (c : Double) :
    complexityShare (.float c) = duplicationShare (.float (c.mul (.finite 5))) := by
  have hfive : Amount.doubleOfInt 5 = .ok (.finite 5) := by decide +kernel
  show ((Amount.doubleOfInt 5 >>= fun b => pure (Amount.float (c.mul b))) >>= duplicationShare) = _
  rw [hfive]
  rfl

/-- The score of averages in range can be computed, unless complexity or duplication is far below
zero. -/
theorem returns_qualityScore_float {c m d : Double} {a b e : ℚ} (hc : c.toRat? = some a)
    (hm : m.toRat? = some b) (hmProper : m.IsProper) (hd : d.toRat? = some e)
    (hdProper : d.IsProper) (ha : -2 ^ 50 ≤ a) (he : -2 ^ 53 ≤ e) :
    Returns (qualityScore (.float c) (.float m) (.float d)) := by
  obtain ⟨first, r, hfirst, hfirstProper, hr, hr0, hr3⟩ :=
    duplicationShare_float (mul_five_cases hc ha)
  obtain ⟨hsecondProper, s, hs, hs4⟩ := fourTenths_share hm (Double.abs_toRat?_le hmProper hm)
  obtain ⟨third, t, hthird, hthirdProper, ht, ht0, ht3⟩ :=
    duplicationShare_float (.inr ⟨e, hdProper, hd, he⟩)
  obtain ⟨n, hn, -⟩ := roundHalfUp_shares hfirstProper hsecondProper hthirdProper hr hs ht hr0 hr3
    hs4 ht0 ht3
  refine ⟨n, ?_⟩
  unfold qualityScore scoreOf
  rw [ok_bind, complexityShare_float, hfirst, ok_bind, ok_bind]
  show (maintainabilityShare (.float m) >>= fun second => do
    let third ← duplicationShare (.float d)
    roundHalfUp ((first.add second).add third)) = _
  rw [show maintainabilityShare (.float m) = .ok (m.mul (decimal 4 (-1))) from rfl, ok_bind, hthird,
    ok_bind]
  exact hn

end Measure

/-- The averages of metrics in range can be computed, and their score. -/
theorem Workspace.returns_combine {metrics : List Metrics} (h : ∀ m ∈ metrics, m.IsMeasured) :
    Returns (combine metrics) := by
  unfold combine
  split_ifs with hnone
  · exact returns_ok _
  have hsome : metrics ≠ [] := by
    rintro rfl
    exact hnone rfl
  obtain ⟨c, a, hc, hcProper, ha, halargest, ha0⟩ :=
    average_spec (·.complexity) hsome fun m hm => (h m hm).complexity
  obtain ⟨m, b, hm, hmProper, hb, hblargest, -⟩ :=
    average_spec (·.maintainability) hsome fun m hm => (h m hm).maintainability
  obtain ⟨d, e, hd, hdProper, he, helargest, he0⟩ :=
    average_spec (·.duplication) hsome fun m hm => (h m hm).duplication
  obtain ⟨i, hi, -⟩ := roundHalfUp_spec hcProper ha halargest
  obtain ⟨j, hj, -⟩ := roundHalfUp_spec hmProper hb hblargest
  obtain ⟨k, hk, -⟩ := roundHalfUp_spec hdProper he helargest
  have hcomplexity := ha0 fun m hm => (h m hm).complexity_nonneg
  have hduplication := he0 fun m hm => (h m hm).duplication_nonneg
  obtain ⟨score, hscore⟩ := Measure.returns_qualityScore_float ha hb hmProper he hdProper
    (by linarith) (by linarith)
  rw [hc, ok_bind, hm, ok_bind, hd, ok_bind, hi, ok_bind, hj, ok_bind, hk, ok_bind, hscore, ok_bind]
  exact returns_ok _

end CodeReview
