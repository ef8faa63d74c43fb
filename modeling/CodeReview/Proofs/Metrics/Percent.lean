/-
Percentages with a half going up. They are computed in floating point, each step off by so little that
only a share halfway between two percentages can come out wrong (`floor_percentSum_of_lt`). Of the
hundred shares that lie halfway four come out one too low (`floor_percentSum_of_half`).
-/
import CodeReview.Proofs.Distinct
import CodeReview.Proofs.Metrics.Score
import CodeReview.Proofs.Number.Errors

namespace CodeReview

open Double (limit largest rounded)
open Result

namespace Measure

/-! ## Percentages -/

/-- A percentage as it is computed, before the fraction is dropped. -/
def percentSum (share : ℚ) : ℚ := rounded (rounded (rounded share * 100) + 1 / 2)

/-- A percentage, a half going up. -/
def halfUpPercent (part whole : ℕ) : ℤ := (200 * part + whole) / (2 * whole)

section Percent

variable {share : ℚ} {part whole : ℕ}

theorem share_le_one (h : part ≤ whole) : (part : ℚ) / whole ≤ 1 :=
  div_le_one_of_le₀ (by exact_mod_cast h) (Nat.cast_nonneg whole)

/-- A percentage is off by little before the fraction is dropped. -/
theorem abs_percentSum_sub_le (hpos : 0 ≤ share) (hone : share ≤ 1) :
    |percentSum share - (share * 100 + 1 / 2)| ≤ 2 ^ (-45 : ℤ) := by
  have hshare : |rounded share - share| ≤ 0 + 2 ^ (-52 : ℤ) / 2 := by
    refine Double.abs_rounded_sub_le_add (by norm_num) (by simp) ?_
    rw [abs_of_nonneg hpos]
    norm_num
    linarith
  have hproduct : |rounded share * 100 - share * 100| ≤ 100 * (2 ^ (-52 : ℤ) / 2) := by
    rw [← sub_mul, abs_mul, abs_of_pos (by norm_num : (0 : ℚ) < 100), mul_comm]
    linarith
  have hpercent := Double.abs_rounded_sub_le_add (e := -46) (by norm_num) hproduct (by
    rw [abs_of_nonneg (by linarith)]
    norm_num
    linarith)
  have hsum : |rounded (rounded share * 100) + 1 / 2 - (share * 100 + 1 / 2)| ≤
      100 * (2 ^ (-52 : ℤ) / 2) + 2 ^ (-46 : ℤ) / 2 := by
    rwa [add_sub_add_right_eq_sub]
  refine (Double.abs_rounded_sub_le_add (e := -46) (by norm_num) hsum ?_).trans (by norm_num)
  rw [abs_of_nonneg (by linarith)]
  norm_num
  linarith

theorem rounded_share_bounds (hpos : 0 ≤ share) (hone : share ≤ 1) :
    0 ≤ rounded share ∧ rounded share ≤ 1 := by
  have hself : rounded 1 = 1 := by exact_mod_cast Double.rounded_intCast (n := 1) (by norm_num)
  exact ⟨Double.rounded_nonneg hpos, (Double.rounded_mono hone).trans_eq hself⟩

/-- What is computed of a share is a percentage from 0 to 100. -/
theorem rounded_percent_bounds (hpos : 0 ≤ share) (hone : share ≤ 1) :
    0 ≤ rounded (rounded share * 100) ∧ rounded (rounded share * 100) ≤ 100 := by
  have hself : rounded 100 = 100 := by
    exact_mod_cast Double.rounded_intCast (n := 100) (by norm_num)
  obtain ⟨hlow, hhigh⟩ := rounded_share_bounds hpos hone
  exact ⟨Double.rounded_nonneg (by linarith),
    (Double.rounded_mono (by linarith)).trans_eq hself⟩

theorem roundHalfUp_percent (hpos : 0 ≤ share) (hone : share ≤ 1) :
    roundHalfUp ((Double.round share).mul (.finite 100)) = .ok ⌊percentSum share⌋ := by
  obtain ⟨hshareNonneg, hunit⟩ := rounded_share_bounds hpos hone
  obtain ⟨hpercentNonneg, hhundred⟩ := rounded_percent_bounds hpos hone
  have hproductNonneg : 0 ≤ rounded share * 100 := by linarith
  have hshare : (Double.round share).toRat? = some (rounded share) := by
    refine Double.toRat?_round_of_abs_le ?_
    rw [abs_of_nonneg hpos]
    linarith
  obtain ⟨hproper, hproduct⟩ := Double.mul_spec (y := .finite 100) hshare rfl
  rw [Double.toRat?_round_of_abs_le (by rw [abs_of_nonneg hproductNonneg]; linarith)] at hproduct
  have hlargest := Double.two_pow_le_largest
  exact (roundHalfUp_eq hproper hproduct (by rw [abs_of_nonneg hpercentNonneg]; linarith)).2

/-- What the percentage is before the fraction is dropped, in terms of its integer part. -/
theorem percent_eq_halfUp (hwhole : 0 < whole) : ((part : ℚ) / whole) * 100 + 1 / 2 =
    halfUpPercent part whole + ((200 * part + whole) % (2 * whole) : ℕ) / (2 * whole) := by
  have hpos : (0 : ℚ) < whole := by exact_mod_cast hwhole
  have hdivision : (200 * part + whole : ℚ) =
      2 * whole * ((200 * part + whole) / (2 * whole) : ℕ) +
        ((200 * part + whole) % (2 * whole) : ℕ) := by
    exact_mod_cast (Nat.div_add_mod (200 * part + whole) (2 * whole)).symm
  have hhalfUp : (halfUpPercent part whole : ℚ) = ((200 * part + whole) / (2 * whole) : ℕ) := by
    unfold halfUpPercent
    rfl
  rw [hhalfUp]
  field_simp
  linarith

theorem floor_percent (hwhole : 0 < whole) :
    ⌊((part : ℚ) / whole) * 100 + 1 / 2⌋ = halfUpPercent part whole := by
  have hpos : (0 : ℚ) < 2 * whole := by
    have : (0 : ℚ) < whole := by exact_mod_cast hwhole
    linarith
  have hless : (((200 * part + whole) % (2 * whole) : ℕ) : ℚ) < 2 * whole := by
    exact_mod_cast Nat.mod_lt (200 * part + whole) (by omega)
  rw [percent_eq_halfUp hwhole, Int.floor_eq_iff]
  constructor
  · have : (0 : ℚ) ≤ ((200 * part + whole) % (2 * whole) : ℕ) / (2 * whole) := by positivity
    linarith
  · have : (((200 * part + whole) % (2 * whole) : ℕ) : ℚ) / (2 * whole) < 1 := (div_lt_one hpos).2 hless
    linarith

/-! ### Shares halfway between two percentages -/

/-- The share lies halfway between two percentages, and is one of the four whose percentage falls short
of the half: 29, 57, 113 or 115 of 200. -/
def FallsShort (part whole : ℕ) : Prop :=
  200 * part = 29 * whole ∨ 200 * part = 57 * whole ∨ 200 * part = 113 * whole ∨
    200 * part = 115 * whole

instance : Decidable (FallsShort part whole) := inferInstanceAs (Decidable (_ ∨ _))

theorem mod_eq_zero_of_fallsShort (h : FallsShort part whole) :
    (200 * part + whole) % (2 * whole) = 0 := by
  have hmultiple (k : ℕ) (hk : 200 * part + whole = 2 * whole * k) :
      (200 * part + whole) % (2 * whole) = 0 := by
    rw [hk, Nat.mul_mod_right]
  rcases h with h | h | h | h
  · exact hmultiple 15 (by omega)
  · exact hmultiple 29 (by omega)
  · exact hmultiple 57 (by omega)
  · exact hmultiple 58 (by omega)

/-- The hundred shares that lie halfway between two percentages, each computed. -/
theorem roundHalfUp_of_half : ∀ k ∈ List.range 100,
    roundHalfUp ((Double.round (mkRat (2 * k + 1) 200)).mul (.finite 100)) =
      .ok (if k ∈ [14, 28, 56, 57] then k else k + 1) := by
  decide +kernel

theorem floor_percentSum_of_half (hwhole : 0 < whole) (hpart : part ≤ whole)
    (hhalf : (200 * part + whole) % (2 * whole) = 0) : ⌊percentSum ((part : ℚ) / whole)⌋ =
      if FallsShort part whole then halfUpPercent part whole - 1 else halfUpPercent part whole := by
  obtain ⟨n, hn⟩ := Nat.dvd_of_mod_eq_zero hhalf
  -- the share is an odd number of two-hundredths
  obtain ⟨k, rfl⟩ : ∃ k, n = k + 1 := by
    refine Nat.exists_eq_succ_of_ne_zero ?_
    rintro rfl
    omega
  have hodd : 200 * part = (2 * k + 1) * whole := by
    have : 2 * whole * (k + 1) = (2 * k + 1) * whole + whole := by ring
    omega
  have hk : k < 100 := by
    by_contra hlarge
    have : 200 * whole < (2 * k + 1) * whole := Nat.mul_lt_mul_of_pos_right (by omega) hwhole
    omega
  have hpos : (0 : ℚ) < whole := by exact_mod_cast hwhole
  have hshare : mkRat (2 * k + 1) 200 = (part : ℚ) / whole := by
    have hodd' : (200 * part : ℚ) = (2 * k + 1) * whole := by exact_mod_cast hodd
    rw [Rat.mkRat_eq_div, div_eq_div_iff (by norm_num) hpos.ne']
    push_cast
    linarith
  have hcomputed := roundHalfUp_of_half k (List.mem_range.2 hk)
  have hone := share_le_one hpart
  rw [hshare, roundHalfUp_percent (by positivity) hone] at hcomputed
  have hhalfUp : halfUpPercent part whole = k + 1 := by
    have hn' : (200 * part + whole : ℤ) = 2 * whole * (k + 1) := by exact_mod_cast hn
    unfold halfUpPercent
    rw [hn', Int.mul_ediv_cancel_left _ (by omega)]
  have hshort : FallsShort part whole ↔ k ∈ [14, 28, 56, 57] := by
    unfold FallsShort
    simp only [hodd, Nat.mul_left_inj hwhole.ne', List.mem_cons, List.not_mem_nil, or_false]
    omega
  rw [Except.ok.inj hcomputed, hhalfUp]
  simp only [hshort]
  split_ifs <;> omega

/-- Other shares are too far from a half to be turned, unless the whole is huge. -/
theorem floor_percentSum_of_lt (hwhole : 0 < whole) (hpart : part ≤ whole) (hlt : whole < 2 ^ 44)
    (hhalf : (200 * part + whole) % (2 * whole) ≠ 0) :
    ⌊percentSum ((part : ℚ) / whole)⌋ = halfUpPercent part whole := by
  have hpos : (0 : ℚ) < whole := by exact_mod_cast hwhole
  have hone := share_le_one hpart
  have hsmall : (2 ^ (-45 : ℤ) : ℚ) * (2 * whole) < 1 := by
    have hbound : (whole : ℚ) < 2 ^ 44 := by exact_mod_cast hlt
    calc (2 ^ (-45 : ℤ) : ℚ) * (2 * whole) < 2 ^ (-45 : ℤ) * (2 * 2 ^ 44) := by gcongr
      _ = 1 := by norm_num
  have hrest : (1 : ℚ) ≤ ((200 * part + whole) % (2 * whole) : ℕ) := by
    exact_mod_cast Nat.one_le_iff_ne_zero.2 hhalf
  have hrest' : (((200 * part + whole) % (2 * whole) : ℕ) : ℚ) + 1 ≤ 2 * whole := by
    exact_mod_cast Nat.mod_lt (200 * part + whole) (by omega)
  refine floor_eq_of_abs_sub_le (abs_percentSum_sub_le (by positivity) hone) ?_ ?_
  · rw [percent_eq_halfUp hwhole]
    refine add_le_add_right ?_ _
    rw [le_div_iff₀ (by linarith)]
    linarith
  · rw [percent_eq_halfUp hwhole, add_assoc]
    refine add_lt_add_right ?_ _
    rw [← lt_sub_iff_add_lt, div_lt_iff₀ (by linarith), sub_mul, one_mul]
    linarith

/-- A computed percentage is off by one at most; where the whole is not huge or the share lies halfway, it is
one too low for the four shares that fall short, and right for all others. -/
theorem floor_percentSum (hwhole : 0 < whole) (hpart : part ≤ whole) :
    |⌊percentSum ((part : ℚ) / whole)⌋ - halfUpPercent part whole| ≤ 1 ∧
      (whole < 2 ^ 44 ∨ (200 * part + whole) % (2 * whole) = 0 →
        ⌊percentSum ((part : ℚ) / whole)⌋ =
          if FallsShort part whole then halfUpPercent part whole - 1 else halfUpPercent part whole) := by
  have hone := share_le_one hpart
  constructor
  · rw [← floor_percent hwhole]
    refine abs_floor_sub_le ((abs_percentSum_sub_le (by positivity) hone).trans_lt (by norm_num))
  · intro hcase
    by_cases hhalf : (200 * part + whole) % (2 * whole) = 0
    · exact floor_percentSum_of_half hwhole hpart hhalf
    · rw [if_neg (mt mod_eq_zero_of_fallsShort hhalf)]
      exact floor_percentSum_of_lt hwhole hpart (hcase.resolve_right hhalf) hhalf

end Percent

/-! ### The duplication of a text -/

theorem repeatedCount_eq (lines : List (List Char)) :
    repeatedCount lines = lines.length - lines.toFinset.card := by
  unfold repeatedCount
  rw [length_eraseDups]

theorem duplication_eq_floor {text : List Char} (hsome : candidates text ≠ []) :
    duplication text = .ok ⌊percentSum
      ((repeatedCount (candidates text) : ℚ) / (candidates text).length)⌋ := by
  have hone : (repeatedCount (candidates text) : ℚ) / (candidates text).length ≤ 1 :=
    share_le_one (Nat.sub_le _ _)
  have hnonneg : 0 ≤ (repeatedCount (candidates text) : ℚ) / (candidates text).length := by positivity
  have hrange : ¬limit ≤ |((repeatedCount (candidates text) : ℤ) / (candidates text).length : ℚ)| := by
    have := Double.two_pow_le_largest
    have := Double.largest_lt_limit
    rw [not_le, Int.cast_natCast, abs_of_nonneg hnonneg]
    linarith
  unfold duplication
  dsimp only
  rw [if_neg (by simpa using hsome), Amount.divideBy_int, if_neg hrange, ok_bind, Int.cast_natCast]
  exact roundHalfUp_percent hnonneg hone

end Measure

end CodeReview
