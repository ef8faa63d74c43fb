/-
Errors of rounding. A number that is off by little stays off by little when it is rounded once more
(`abs_rounded_sub_le_add`), and the integer below it is the right one unless the exact value lies next to
an integer (`floor_eq_of_abs_sub_le`).
-/
import CodeReview.Proofs.Number.Rounding

namespace CodeReview

/-! ## Integers below an inexact number -/

section Floor

variable {s w δ : ℚ} {n : ℤ}

/-- An error that is smaller than the way to the next integers does not change the integer below. -/
theorem floor_eq_of_abs_sub_le (h : |s - w| ≤ δ) (hlow : n + δ ≤ w) (hhigh : w + δ < n + 1) :
    ⌊s⌋ = n := by
  obtain ⟨hbelow, habove⟩ := abs_le.1 h
  rw [Int.floor_eq_iff]
  constructor <;> linarith

/-- What is off an integer by less than one has this integer below it, or the one before if it falls
short. -/
theorem floor_eq_ite_of_abs_sub_lt (h : |s - n| < 1) :
    ⌊s⌋ = if s < n then n - 1 else n := by
  obtain ⟨hbelow, habove⟩ := abs_lt.1 h
  split_ifs with hshort
  · rw [Int.floor_eq_iff]
    push_cast
    constructor <;> linarith
  · rw [Int.floor_eq_iff]
    constructor <;> linarith

theorem abs_floor_sub_le (h : |s - w| < 1) : |⌊s⌋ - ⌊w⌋| ≤ 1 := by
  obtain ⟨hbelow, habove⟩ := abs_lt.1 h
  have hs := Int.floor_le s
  have hs' := Int.lt_floor_add_one s
  have hw := Int.floor_le w
  have hw' := Int.lt_floor_add_one w
  have hlow : ((⌊w⌋ - 1 : ℤ) : ℚ) < (⌊s⌋ : ℚ) + 1 := by
    push_cast
    linarith
  have hhigh : (⌊s⌋ : ℚ) < ((⌊w⌋ + 1 : ℤ) : ℚ) + 1 := by
    push_cast
    linarith
  have hlow' : ⌊w⌋ - 1 < ⌊s⌋ + 1 := by exact_mod_cast hlow
  have hhigh' : ⌊s⌋ < ⌊w⌋ + 1 + 1 := by exact_mod_cast hhigh
  rw [abs_le]
  omega

end Floor

namespace Double

/-! ## Errors of one step -/

/-- A number that is off by little is off by half a last place more once it is rounded. -/
theorem abs_rounded_sub_le_add {x y ε : ℚ} {e : ℤ} (he : -1074 ≤ e) (h : |x - y| ≤ ε)
    (hrange : |y| + ε < 2 ^ (e + 53)) : |rounded x - y| ≤ ε + 2 ^ e / 2 := by
  have hx : |x| < 2 ^ (e + 53) := by
    have hsum : |x| ≤ |y| + |x - y| := by
      have := abs_add_le y (x - y)
      rwa [add_sub_cancel] at this
    linarith
  calc |rounded x - y| ≤ |rounded x - x| + |x - y| := abs_sub_le _ _ _
    _ ≤ 2 ^ e / 2 + ε := add_le_add (abs_rounded_sub_le he hx) h
    _ = ε + 2 ^ e / 2 := add_comm _ _

theorem two_pow_le_largest : 2 ^ 53 ≤ largest := by
  have := one_le_halfPlace
  unfold largest
  linarith

theorem toRat?_round_of_abs_le {q : ℚ} (h : |q| ≤ 2 ^ 53) : (round q).toRat? = some (rounded q) := by
  have hrange : |q| < limit := (h.trans two_pow_le_largest).trans_lt largest_lt_limit
  rw [toRat?_round, if_neg (not_le.2 hrange)]

theorem rounded_intCast {n : ℤ} (h : |n| ≤ 2 ^ 53) : rounded n = n :=
  rounded_eq_self ⟨n, 0, h, by norm_num, by rw [zpow_zero, mul_one]⟩

/-- Rounding does not lead beyond an integer. -/
theorem abs_rounded_le {x : ℚ} {n : ℤ} (hn : n ≤ 2 ^ 53) (hx : |x| ≤ n) : |rounded x| ≤ n := by
  have hpos : (0 : ℚ) ≤ n := (abs_nonneg x).trans hx
  have hself : rounded n = n := by
    refine rounded_intCast ?_
    rwa [abs_of_nonneg (by exact_mod_cast hpos)]
  obtain ⟨hlow, hhigh⟩ := abs_le.1 hx
  rw [abs_le]
  constructor
  · have hmono := rounded_mono hlow
    rwa [rounded_neg, hself] at hmono
  · exact (rounded_mono hhigh).trans_eq hself

end Double

end CodeReview
