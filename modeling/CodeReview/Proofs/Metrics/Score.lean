/-
When scores and averages can be computed. What complexity and duplication leave, and the
maintainability, must be in the range of floating-point numbers (`returns_qualityScore_iff`); their
shares then never add up to more than that, since they come to the whole at most. Averages can be
computed where they are in that range (`returns_averageOf_iff`).
-/
import CodeReview.History.Timeline
import CodeReview.Proofs.Number.Rounding
import CodeReview.Proofs.Result

namespace CodeReview

open Double (limit largest rounded halfPlace)
open Result

/-! ## Numbers in range -/

/-- A number that is not infinite. -/
def Double.fitting : Double → Except Fault Double
  | .infinity _ => .error .outOfRange
  | x => .ok x

theorem Double.fitting_round (q : ℚ) :
    (Double.round q).fitting = if limit ≤ |q| then .error .outOfRange else .ok (Double.round q) := by
  rw [round_eq]
  unfold zero
  split_ifs <;> rfl

theorem Amount.doubleOfInt_eq (i : ℤ) :
    doubleOfInt i = if limit ≤ |(i : ℚ)| then .error .outOfRange else .ok (Double.round i) :=
  Double.fitting_round i

theorem Amount.divideBy_int (i : ℤ) (n : ℕ) : (Amount.int i).divideBy n =
    if limit ≤ |(i / n : ℚ)| then .error .outOfRange else .ok (Double.round (i / n : ℚ)) := by
  have hquotient : mkRat i n = (i / n : ℚ) := Rat.mkRat_eq_div i n
  rw [← hquotient]
  exact Double.fitting_round _

theorem limit_eq : limit = largest + halfPlace := by
  unfold limit largest
  ring

theorem floor_eq_of_toRat? {x : Double} {q : ℚ} (h : x.toRat? = some q) : x.floor = .ok ⌊q⌋ := by
  rcases Double.eq_of_toRat? h with rfl | ⟨rfl, rfl⟩
  · rfl
  · rw [Int.floor_zero]
    rfl

theorem largest_eq_intCast : ∃ n : ℤ, largest = n := by
  refine ⟨(2 ^ 54 - 2) * 2 ^ 970, ?_⟩
  unfold largest halfPlace
  rw [Int.cast_mul, Int.cast_pow, Int.cast_ofNat]
  norm_num only

/-- A number that is not above the largest is rounded to the integer below it and a half, the sum
rounded first. -/
theorem roundHalfUp_eq {x : Double} {q : ℚ} (hx : x.IsProper) (hq : x.toRat? = some q)
    (h : |q| ≤ largest) : |q + 1 / 2| < limit ∧ roundHalfUp x = .ok ⌊rounded (q + 1 / 2)⌋ := by
  have hproper : Double.half.IsProper := by
    show Double.round (mkRat 1 2) = .finite (mkRat 1 2)
    decide +kernel
  have hhalf : Double.half.toRat? = some (1 / 2) := by
    show some (mkRat 1 2) = some (1 / 2 : ℚ)
    norm_num [Rat.mkRat_eq_div]
  have hrange : |q + 1 / 2| < limit := by
    have := Double.one_le_halfPlace
    rw [limit_eq]
    refine (abs_add_le _ _).trans_lt ?_
    norm_num
    linarith
  have hsum : (x.add .half).toRat? = some (rounded (q + 1 / 2)) := by
    rw [Double.toRat?_add hx hproper hq hhalf, Double.toRat?_round, if_neg (not_le.2 hrange)]
  exact ⟨hrange, floor_eq_of_toRat? hsum⟩

/-- A number that is not above the largest is rounded to an integer that is not. -/
theorem roundHalfUp_spec {x : Double} {q : ℚ} (hx : x.IsProper) (hq : x.toRat? = some q)
    (h : |q| ≤ largest) : ∃ n : ℤ, roundHalfUp x = .ok n ∧ |(n : ℚ)| ≤ largest := by
  obtain ⟨hrange, hround⟩ := roundHalfUp_eq hx hq h
  refine ⟨_, hround, ?_⟩
  obtain ⟨hlow, hhigh⟩ := abs_le.1 (Double.abs_rounded_le_largest hrange)
  obtain ⟨n, hn⟩ := largest_eq_intCast
  rw [hn] at hlow hhigh ⊢
  rw [abs_le]
  constructor
  · exact_mod_cast Int.le_floor.2 (by exact_mod_cast hlow)
  · exact (Int.floor_le _).trans hhigh

/-! ## Averages -/

/-- An average can be computed if it is in the range of floating-point numbers. -/
theorem Timeline.returns_averageOf_iff (values : List ℤ) :
    Returns (averageOf values) ↔ |(sumInt values / values.length : ℚ)| < limit := by
  unfold averageOf
  rw [Amount.divideBy_int, returns_bind_iff]
  split_ifs with hlarge
  · exact iff_of_false (fun ⟨_, h, _⟩ => nomatch h) (not_lt.2 hlarge)
  · rw [not_le] at hlarge
    have hvalue := Double.toRat?_round (sumInt values / values.length : ℚ)
    rw [if_neg (not_le.2 hlarge)] at hvalue
    obtain ⟨n, hn, -⟩ := roundHalfUp_spec (Double.isProper_round _) hvalue
      (Double.abs_rounded_le_largest hlarge)
    exact iff_of_true ⟨_, rfl, n, hn⟩ hlarge

theorem abs_sumInt_le {values : List ℤ} {bound : ℚ} (h : ∀ v ∈ values, |(v : ℚ)| ≤ bound) :
    |(sumInt values : ℚ)| ≤ values.length * bound := by
  induction values with
  | nil => simp [sumInt]
  | cons v values ih =>
    obtain ⟨hv, hvalues⟩ := List.forall_mem_cons.1 h
    rw [sumInt, Int.cast_add, List.length_cons, Nat.cast_succ, add_one_mul, add_comm]
    exact (abs_add_le _ _).trans (add_le_add (ih hvalues) hv)

/-- An average of numbers in range is in range. -/
theorem Timeline.returns_averageOf {values : List ℤ} (h : ∀ v ∈ values, |(v : ℚ)| ≤ largest) :
    Returns (averageOf values) := by
  rw [returns_averageOf_iff]
  refine lt_of_le_of_lt ?_ Double.largest_lt_limit
  rcases values.length.eq_zero_or_pos with hempty | hsome
  · rw [hempty, Nat.cast_zero, div_zero, abs_zero]
    exact Double.largest_pos.le
  · have hpos : (0 : ℚ) < values.length := by exact_mod_cast hsome
    rw [abs_div, abs_of_pos hpos, div_le_iff₀ hpos, mul_comm]
    exact abs_sumInt_le h

/-! ## The score -/

namespace Measure

def threeTenths : ℚ := 5404319552844595 / 18014398509481984

def fourTenths : ℚ := 3602879701896397 / 9007199254740992

theorem threeTenths_bounds : 0 ≤ threeTenths ∧ threeTenths ≤ 1 := by
  unfold threeTenths
  norm_num

theorem fourTenths_bounds : 0 ≤ fourTenths ∧ fourTenths ≤ 1 := by
  unfold fourTenths
  norm_num

theorem decimal_three : decimal 3 (-1) = .finite threeTenths := by
  unfold decimal threeTenths
  decide +kernel

theorem decimal_four : decimal 4 (-1) = .finite fourTenths := by
  unfold decimal fourTenths
  decide +kernel

theorem rounded_of_roundMagnitude {q v : ℚ} (hq : 0 < q) (h : Double.roundMagnitude q = some v) :
    rounded q = v := by
  rw [Double.roundMagnitude_eq hq] at h
  unfold rounded
  rw [if_neg (not_lt.2 hq.le)]
  split_ifs at h
  exact Option.some.inj h

/-- The largest share that complexity or duplication can leave. -/
theorem rounded_threeTenths : rounded (largest * threeTenths) = 5404319552844594 * halfPlace :=
  rounded_of_roundMagnitude (mul_pos Double.largest_pos (by unfold threeTenths; norm_num))
    (by decide +kernel)

/-- The largest share that maintainability can bring. -/
theorem rounded_fourTenths : rounded (largest * fourTenths) = 7205759403792793 * halfPlace :=
  rounded_of_roundMagnitude (mul_pos Double.largest_pos (by unfold fourTenths; norm_num))
    (by decide +kernel)

theorem rounded_firstShares :
    rounded (5404319552844594 * halfPlace + 7205759403792793 * halfPlace) =
      12610078956637388 * halfPlace := by
  have := Double.halfPlace_pos
  exact rounded_of_roundMagnitude (by positivity) (by decide +kernel)

/-! ### Shares -/

theorem positivePart_int (i : ℤ) :
    positivePart (.int i) = if 0 < i then .int i else .float (.finite 0) := by
  have hlt : Amount.lt (.float (.finite 0)) (.int i) = decide ((0 : ℚ) < (i : ℚ)) := rfl
  unfold positivePart
  rw [hlt]
  simp only [decide_eq_true_eq, Int.cast_pos]

/-- What is left of the hundred points, as a floating-point number, is in range if it is not too
large. -/
theorem toDouble_positivePart (i : ℤ) :
    (limit ≤ (i : ℚ) ∧ (positivePart (.int i)).toDouble = .error .outOfRange) ∨
      ((i : ℚ) < limit ∧ ∃ x a, (positivePart (.int i)).toDouble = .ok x ∧ x.toRat? = some a ∧
        0 ≤ a ∧ a ≤ largest) := by
  rw [positivePart_int]
  split_ifs with hpos
  · have habs : |(i : ℚ)| = i := abs_of_pos (by exact_mod_cast hpos)
    have hdouble : (Amount.int i).toDouble = Amount.doubleOfInt i := rfl
    rw [hdouble, Amount.doubleOfInt_eq, habs]
    split_ifs with hlarge
    · exact .inl ⟨hlarge, rfl⟩
    · have hrange : |(i : ℚ)| < limit := habs.symm ▸ not_le.1 hlarge
      refine .inr ⟨not_le.1 hlarge, _, rounded i, rfl, ?_,
        Double.rounded_nonneg (by exact_mod_cast hpos.le),
        (le_abs_self _).trans (Double.abs_rounded_le_largest hrange)⟩
      rw [Double.toRat?_round, if_neg (not_le.2 hrange)]
  · have hneg : (i : ℚ) ≤ 0 := by exact_mod_cast not_lt.1 hpos
    exact .inr ⟨hneg.trans_lt Double.limit_pos, _, 0, rfl, rfl, le_refl 0, Double.largest_pos.le⟩

/-- A share is the exact one, rounded. -/
theorem share_spec {x : Double} {a w : ℚ} (hx : x.toRat? = some a) (ha : |a| ≤ largest)
    (hw : 0 ≤ w) (hwhole : w ≤ 1) :
    (x.mul (.finite w)).IsProper ∧ (x.mul (.finite w)).toRat? = some (rounded (a * w)) := by
  obtain ⟨hproper, hvalue⟩ := Double.mul_spec (y := .finite w) hx rfl
  have hrange : |a * w| < limit := by
    rw [abs_mul, abs_of_nonneg hw]
    calc |a| * w ≤ largest * 1 := mul_le_mul ha hwhole hw Double.largest_pos.le
      _ = largest := mul_one _
      _ < limit := Double.largest_lt_limit
  refine ⟨hproper, ?_⟩
  rw [hvalue, Double.toRat?_round, if_neg (not_le.2 hrange)]

/-- What is left of the hundred points brings a share of three tenths at most. -/
theorem threeTenths_share {x : Double} {a : ℚ} (hx : x.toRat? = some a) (hpos : 0 ≤ a)
    (hlargest : a ≤ largest) : (x.mul (decimal 3 (-1))).IsProper ∧
      ∃ s, (x.mul (decimal 3 (-1))).toRat? = some s ∧ 0 ≤ s ∧ s ≤ 5404319552844594 * halfPlace := by
  have hweight := threeTenths_bounds
  obtain ⟨hproper, hshare⟩ := share_spec hx (by rwa [abs_of_nonneg hpos]) hweight.1 hweight.2
  rw [decimal_three]
  refine ⟨hproper, _, hshare, Double.rounded_nonneg (mul_nonneg hpos hweight.1), ?_⟩
  rw [← rounded_threeTenths]
  exact Double.rounded_mono (mul_le_mul_of_nonneg_right hlargest hweight.1)

/-- Maintainability brings a share of four tenths at most, forward or back. -/
theorem fourTenths_share {x : Double} {a : ℚ} (hx : x.toRat? = some a) (habs : |a| ≤ largest) :
    (x.mul (decimal 4 (-1))).IsProper ∧
      ∃ s, (x.mul (decimal 4 (-1))).toRat? = some s ∧ |s| ≤ 7205759403792793 * halfPlace := by
  have hweight := fourTenths_bounds
  obtain ⟨hproper, hshare⟩ := share_spec hx habs hweight.1 hweight.2
  rw [decimal_four]
  refine ⟨hproper, _, hshare, ?_⟩
  obtain ⟨hlow, hhigh⟩ := abs_le.1 habs
  rw [← rounded_fourTenths, abs_le]
  constructor
  · rw [← Double.rounded_neg, ← neg_mul]
    exact Double.rounded_mono (mul_le_mul_of_nonneg_right hlow hweight.1)
  · exact Double.rounded_mono (mul_le_mul_of_nonneg_right hhigh hweight.1)

/-- The part of the score that a number of points brings, if any are left. -/
def remainingShare (points : ℤ) : Except Fault Double :=
  (positivePart (.int points)).toDouble.map (·.mul (decimal 3 (-1)))

theorem remainingShare_spec (i : ℤ) :
    (limit ≤ (i : ℚ) ∧ remainingShare i = .error .outOfRange) ∨
    ((i : ℚ) < limit ∧ ∃ x s, remainingShare i = .ok x ∧ x.IsProper ∧ x.toRat? = some s ∧ 0 ≤ s ∧
      s ≤ 5404319552844594 * halfPlace) := by
  unfold remainingShare
  rcases toDouble_positivePart i with ⟨hlarge, hfault⟩ | ⟨hrange, x, a, hx, hvalue, hpos, hlargest⟩
  · rw [hfault]
    exact .inl ⟨hlarge, rfl⟩
  · obtain ⟨hproper, s, hshare, hs⟩ := threeTenths_share hvalue hpos hlargest
    rw [hx]
    exact .inr ⟨hrange, _, s, rfl, hproper, hshare, hs⟩

theorem maintainabilityShare_int (m : ℤ) :
    maintainabilityShare (.int m) = (Amount.doubleOfInt m).map (·.mul (decimal 4 (-1))) :=
  bind_pure_comp (fun x : Double => x.mul (decimal 4 (-1))) (Amount.doubleOfInt m)

theorem maintainabilityShare_spec (m : ℤ) :
    (limit ≤ |(m : ℚ)| ∧ maintainabilityShare (.int m) = .error .outOfRange) ∨
    (|(m : ℚ)| < limit ∧ ∃ x s, maintainabilityShare (.int m) = .ok x ∧ x.IsProper ∧
      x.toRat? = some s ∧ |s| ≤ 7205759403792793 * halfPlace) := by
  rw [maintainabilityShare_int, Amount.doubleOfInt_eq]
  split_ifs with hlarge
  · exact .inl ⟨hlarge, rfl⟩
  · rw [not_le] at hlarge
    have hvalue := Double.toRat?_round (m : ℚ)
    rw [if_neg (not_le.2 hlarge)] at hvalue
    obtain ⟨hproper, s, hshare, hs⟩ :=
      fourTenths_share hvalue (Double.abs_rounded_le_largest hlarge)
    exact .inr ⟨hlarge, _, s, rfl, hproper, hshare, hs⟩

/-- The shares never add up to more than the largest number. -/
theorem roundHalfUp_shares {first second third : Double} {a b c : ℚ} (hfirst : first.IsProper)
    (hsecond : second.IsProper) (hthird : third.IsProper) (ha : first.toRat? = some a)
    (hb : second.toRat? = some b) (hc : third.toRat? = some c) (ha0 : 0 ≤ a)
    (ha3 : a ≤ 5404319552844594 * halfPlace) (hb4 : |b| ≤ 7205759403792793 * halfPlace)
    (hc0 : 0 ≤ c) (hc3 : c ≤ 5404319552844594 * halfPlace) :
    ∃ n : ℤ, roundHalfUp ((first.add second).add third) = .ok n ∧ |(n : ℚ)| ≤ largest := by
  have hplace := Double.halfPlace_pos
  have hlargest : largest = 18014398509481982 * halfPlace := by
    unfold largest
    norm_num
  have hlimit : limit = 18014398509481983 * halfPlace := by
    unfold limit
    norm_num
  obtain ⟨hlow, hhigh⟩ := abs_le.1 hb4
  have hsum : |a + b| < limit := by
    rw [hlimit, abs_lt]
    constructor <;> linarith
  have hvalue : (first.add second).toRat? = some (rounded (a + b)) := by
    rw [Double.toRat?_add hfirst hsecond ha hb, Double.toRat?_round, if_neg (not_le.2 hsum)]
  have hupper : rounded (a + b) ≤ 12610078956637388 * halfPlace := by
    rw [← rounded_firstShares]
    exact Double.rounded_mono (add_le_add ha3 hhigh)
  have hlower : -(7205759403792793 * halfPlace) ≤ rounded (a + b) := by
    have hself : rounded (-(7205759403792793 * halfPlace)) = -(7205759403792793 * halfPlace) := by
      refine Double.rounded_eq_self ⟨-7205759403792793, 970, by norm_num, by norm_num, ?_⟩
      have hunit : (2 : ℚ) ^ (970 : ℤ) = halfPlace := zpow_natCast 2 970
      rw [hunit]
      push_cast
      ring
    rw [← hself]
    exact Double.rounded_mono (by linarith)
  have htotal : |rounded (a + b) + c| ≤ largest := by
    rw [hlargest, abs_le]
    constructor <;> linarith
  have hrange := htotal.trans_lt Double.largest_lt_limit
  refine roundHalfUp_spec (Double.isProper_add (Double.isProper_add hfirst hsecond) hthird)
    (q := rounded (rounded (a + b) + c)) ?_ (Double.abs_rounded_le_largest hrange)
  rw [Double.toRat?_add (Double.isProper_add hfirst hsecond) hthird hvalue hc, Double.toRat?_round,
    if_neg (not_le.2 hrange)]

/-! ### The whole -/

theorem duplicationShare_int (d : ℤ) : duplicationShare (.int d) = remainingShare (100 - d) :=
  bind_pure_comp (fun x : Double => x.mul (decimal 3 (-1))) (positivePart (.int (100 - d))).toDouble

theorem complexityShare_int (c : ℤ) : complexityShare (.int c) = remainingShare (100 - c * 5) :=
  duplicationShare_int (c * 5)

theorem qualityScore_eq (c m d : ℤ) : qualityScore (.int c) (.int m) (.int d) = (do
    let first ← remainingShare (100 - c * 5)
    let second ← maintainabilityShare (.int m)
    let third ← remainingShare (100 - d)
    roundHalfUp ((first.add second).add third)) := by
  rw [← complexityShare_int, ← duplicationShare_int]
  rfl

/-- The score can be computed if what complexity and duplication leave and the maintainability are in
the range of floating-point numbers, and is in that range then; nothing else can go wrong. -/
theorem qualityScore_spec (c m d : ℤ) :
    (((100 - c * 5 : ℤ) : ℚ) < limit ∧ |(m : ℚ)| < limit ∧ ((100 - d : ℤ) : ℚ) < limit ∧
      ∃ score, qualityScore (.int c) (.int m) (.int d) = .ok score ∧ |(score : ℚ)| ≤ largest) ∨
    (¬ (((100 - c * 5 : ℤ) : ℚ) < limit ∧ |(m : ℚ)| < limit ∧ ((100 - d : ℤ) : ℚ) < limit) ∧
      qualityScore (.int c) (.int m) (.int d) = .error .outOfRange) := by
  rw [qualityScore_eq]
  rcases remainingShare_spec (100 - c * 5) with
    ⟨hlarge, hfirst⟩ | ⟨hc, first, a, hfirst, hfirstProper, ha, ha0, ha3⟩
  · rw [hfirst]
    exact .inr ⟨fun h => not_lt.2 hlarge h.1, rfl⟩
  rw [hfirst, ok_bind]
  rcases maintainabilityShare_spec m with
    ⟨hlarge, hsecond⟩ | ⟨hm, second, b, hsecond, hsecondProper, hb, hb4⟩
  · rw [hsecond]
    exact .inr ⟨fun h => not_lt.2 hlarge h.2.1, rfl⟩
  rw [hsecond, ok_bind]
  rcases remainingShare_spec (100 - d) with
    ⟨hlarge, hthird⟩ | ⟨hd, third, e, hthird, hthirdProper, he, he0, he3⟩
  · rw [hthird]
    exact .inr ⟨fun h => not_lt.2 hlarge h.2.2, rfl⟩
  rw [hthird, ok_bind]
  exact .inl ⟨hc, hm, hd, roundHalfUp_shares hfirstProper hsecondProper hthirdProper ha hb he ha0 ha3
    hb4 he0 he3⟩

theorem returns_qualityScore_iff (c m d : ℤ) :
    Returns (qualityScore (.int c) (.int m) (.int d)) ↔
      ((100 - c * 5 : ℤ) : ℚ) < limit ∧ |(m : ℚ)| < limit ∧ ((100 - d : ℤ) : ℚ) < limit := by
  rcases qualityScore_spec c m d with ⟨hc, hm, hd, score, hscore, -⟩ | ⟨hrange, hfault⟩
  · exact iff_of_true ⟨score, hscore⟩ ⟨hc, hm, hd⟩
  · rw [hfault]
    exact iff_of_false (not_returns_error _) hrange

/-- A score is in the range of floating-point numbers. -/
theorem abs_qualityScore_le {c m d score : ℤ}
    (h : qualityScore (.int c) (.int m) (.int d) = .ok score) : |(score : ℚ)| ≤ largest := by
  rcases qualityScore_spec c m d with ⟨-, -, -, score', hscore, hbound⟩ | ⟨-, hfault⟩
  · rwa [Except.ok.inj (h.symm.trans hscore)]
  · cases h.symm.trans hfault

/-- A score that cannot be computed is out of range. -/
theorem qualityScore_fault {c m d : ℤ} {fault : Fault}
    (h : qualityScore (.int c) (.int m) (.int d) = .error fault) : fault = .outOfRange := by
  rcases qualityScore_spec c m d with ⟨-, -, -, score, hscore, -⟩ | ⟨-, hfault⟩
  · cases h.symm.trans hscore
  · exact Except.error.inj (h.symm.trans hfault)

end Measure

end CodeReview
