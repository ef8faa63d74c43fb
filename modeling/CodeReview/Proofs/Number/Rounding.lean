/-
Rounding to the nearest floating-point number. It depends on nothing but the value, never turns two
numbers around (`rounded_mono`), leaves what is a floating-point number alone (`rounded_eq_self`), and
fails to give a finite number exactly from half a last place above the largest one on
(`toRat?_round`).
-/
import CodeReview.Time.Moment
import Mathlib.Data.Int.Log
import Mathlib.Tactic

namespace CodeReview

/-! ## The nearest integer -/

theorem nearestEven_cases (q : ℚ) :
    (nearestEven q = ⌊q⌋ ∧ q - ⌊q⌋ ≤ 1 / 2) ∨ (nearestEven q = ⌊q⌋ + 1 ∧ 1 / 2 ≤ q - ⌊q⌋) := by
  have hhalf : (mkRat 1 2 : ℚ) = 1 / 2 := by norm_num [Rat.mkRat_eq_div]
  have hfloor : Rat.floor q = ⌊q⌋ := rfl
  unfold nearestEven
  simp only [hhalf, hfloor]
  split_ifs with hlow hhigh heven
  · exact .inl ⟨rfl, hlow.le⟩
  · exact .inr ⟨rfl, hhigh.le⟩
  · exact .inl ⟨rfl, not_lt.1 hhigh⟩
  · exact .inr ⟨rfl, not_lt.1 hlow⟩

theorem abs_nearestEven_sub_le (q : ℚ) : |(nearestEven q : ℚ) - q| ≤ 1 / 2 := by
  have hfloor := Int.floor_le q
  have hceil := Int.lt_floor_add_one q
  rw [abs_le]
  rcases nearestEven_cases q with ⟨hn, hgap⟩ | ⟨hn, hgap⟩
  · rw [hn]
    constructor <;> linarith
  · rw [hn, Int.cast_add, Int.cast_one]
    constructor <;> linarith

theorem nearestEven_mono : Monotone nearestEven := by
  intro p q hpq
  by_contra hturned
  have hstep : (nearestEven q : ℚ) + 1 ≤ nearestEven p := by exact_mod_cast not_le.1 hturned
  have hp := abs_le.1 (abs_nearestEven_sub_le p)
  have hq := abs_le.1 (abs_nearestEven_sub_le q)
  -- both would have to be halfway between the two integers
  have hsame : p = q := by linarith
  exact hturned (hsame ▸ le_refl _)

@[simp] theorem nearestEven_intCast (n : ℤ) : nearestEven n = n := by
  rcases nearestEven_cases n with ⟨hn, -⟩ | ⟨-, hgap⟩
  · rw [hn, Int.floor_intCast]
  · rw [Int.floor_intCast, sub_self] at hgap
    norm_num at hgap

/-- What lies less than half above an integer is not rounded beyond it. -/
theorem nearestEven_le_of_lt {q : ℚ} {n : ℤ} (h : q < n + 1 / 2) : nearestEven q ≤ n := by
  have hq := abs_le.1 (abs_nearestEven_sub_le q)
  have hlt : (nearestEven q : ℚ) < (n : ℚ) + 1 := by linarith
  exact Int.lt_add_one_iff.1 (by exact_mod_cast hlt)

/-- What lies less than half below an integer is not rounded beyond it. -/
theorem le_nearestEven_of_lt {q : ℚ} {n : ℤ} (h : n - 1 / 2 < q) : n ≤ nearestEven q := by
  have hq := abs_le.1 (abs_nearestEven_sub_le q)
  have hlt : (n : ℚ) < (nearestEven q : ℚ) + 1 := by linarith
  exact Int.lt_add_one_iff.1 (by exact_mod_cast hlt)

namespace Double

theorem divideToEven_eq (num : ℕ) {den : ℕ} (hden : 0 < den) :
    (divideToEven num den : ℤ) = nearestEven (num / den : ℚ) := by
  have hhalf : (mkRat 1 2 : ℚ) = 1 / 2 := by norm_num [Rat.mkRat_eq_div]
  have hfloor : Rat.floor (num / den : ℚ) = (num / den : ℕ) := Rat.floor_natCast_div_natCast num den
  have hpos : (0 : ℚ) < den := by exact_mod_cast hden
  have hgap : (num / den : ℚ) - ((num / den : ℕ) : ℤ) = (num % den : ℕ) / den := by
    have hsplit : (num : ℚ) = den * (num / den : ℕ) + (num % den : ℕ) := by
      exact_mod_cast (Nat.div_add_mod num den).symm
    rw [Int.cast_natCast, hsplit]
    field_simp
    ring
  have hlow : ((num % den : ℕ) / den : ℚ) < 1 / 2 ↔ 2 * (num % den) < den := by
    rw [div_lt_div_iff₀ hpos two_pos]
    constructor
    · intro h
      have : num % den * 2 < 1 * den := by exact_mod_cast h
      omega
    · intro h
      have : num % den * 2 < 1 * den := by omega
      exact_mod_cast this
  have hhigh : 1 / 2 < ((num % den : ℕ) / den : ℚ) ↔ den < 2 * (num % den) := by
    rw [div_lt_div_iff₀ two_pos hpos]
    constructor
    · intro h
      have : 1 * den < num % den * 2 := by exact_mod_cast h
      omega
    · intro h
      have : 1 * den < num % den * 2 := by omega
      exact_mod_cast this
  have heven : ((num / den : ℕ) : ℤ) % 2 = 0 ↔ num / den % 2 = 0 := by omega
  unfold divideToEven nearestEven
  simp only [hhalf, hfloor, hgap, hlow, hhigh, heven]
  split_ifs <;> push_cast <;> rfl

/-! ## Exponents -/

theorem twoTo_pos (n : ℕ) : 0 < twoTo n := Nat.pow_pos two_pos

theorem twoTo_cast (n : ℕ) : (twoTo n : ℚ) = 2 ^ n := by
  unfold twoTo
  exact_mod_cast rfl

theorem two_zpow_pos (e : ℤ) : (0 : ℚ) < 2 ^ e := zpow_pos two_pos e

theorem two_zpow_le {e f : ℤ} (h : e ≤ f) : (2 : ℚ) ^ e ≤ 2 ^ f := zpow_le_zpow_right₀ one_le_two h

/-- A whole number times a power, as a whole number or a fraction. -/
theorem ite_powers_eq {power : ℕ → ℕ} {base : ℚ} (hpower : ∀ n, (power n : ℚ) = base ^ n) (num : ℕ) (e : ℤ) :
    (if 0 ≤ e then ((num * power e.toNat : ℕ) : ℚ) else mkRat num (power (-e).toNat)) = num * base ^ e := by
  split_ifs with he
  · obtain ⟨n, rfl⟩ := Int.eq_ofNat_of_zero_le he
    rw [Int.toNat_natCast, Nat.cast_mul, hpower, zpow_natCast]
  · obtain ⟨n, hn⟩ : ∃ n : ℕ, e = -(n : ℤ) := ⟨(-e).toNat, by omega⟩
    subst hn
    rw [neg_neg, Int.toNat_natCast, Rat.mkRat_eq_div, zpow_neg, zpow_natCast, hpower, Int.cast_natCast,
      div_eq_mul_inv]

theorem powerOfTwo_eq (e : ℤ) : powerOfTwo e = 2 ^ e := by
  have hpowers := ite_powers_eq twoTo_cast 1 e
  rwa [one_mul, Nat.cast_one, Nat.cast_one, one_mul] at hpowers

/-- A quotient compared with a power of two, both sides taken to whole numbers. -/
theorem mul_twoTo_div (num : ℕ) {den : ℕ} (hden : 0 < den) (e : ℤ) :
    ((num * twoTo (-e).toNat : ℕ) : ℚ) / ((den * twoTo e.toNat : ℕ) : ℚ) = num / den / 2 ^ e := by
  have hpos : (0 : ℚ) < den := by exact_mod_cast hden
  rcases le_total 0 e with he | he
  · obtain ⟨n, rfl⟩ := Int.eq_ofNat_of_zero_le he
    simp only [Int.toNat_neg_natCast, Int.toNat_natCast, Nat.cast_mul, twoTo_cast, zpow_natCast,
      pow_zero, mul_one, div_div]
  · obtain ⟨n, rfl⟩ : ∃ n : ℕ, e = -(n : ℤ) := ⟨(-e).toNat, by omega⟩
    simp only [Int.toNat_neg_natCast, neg_neg, Int.toNat_natCast, Nat.cast_mul, twoTo_cast,
      pow_zero, mul_one, zpow_neg, zpow_natCast]
    field_simp

theorem significand_eq (num : ℕ) {den : ℕ} (hden : 0 < den) (e : ℤ) :
    (significand num den e : ℤ) = nearestEven ((num / den : ℚ) / 2 ^ e) := by
  unfold significand
  rw [divideToEven_eq _ (Nat.mul_pos hden (twoTo_pos _)), mul_twoTo_div num hden e]

theorem log_eq_of_bounds {q : ℚ} {k : ℤ} (hle : (2 : ℚ) ^ k ≤ q) (hlt : q < 2 ^ (k + 1)) :
    Int.log 2 q = k := by
  have hq : 0 < q := lt_of_lt_of_le (two_zpow_pos k) hle
  have hbelow := (Int.zpow_le_iff_le_log Nat.one_lt_two hq).1 hle
  have habove := (Int.lt_zpow_iff_log_lt Nat.one_lt_two hq).1 hlt
  omega

/-- A natural number lies between the powers of two next to it. -/
theorem log2_bounds {n : ℕ} (hn : 0 < n) :
    (2 : ℚ) ^ (n.log2 : ℤ) ≤ n ∧ (n : ℚ) < 2 ^ ((n.log2 : ℤ) + 1) := by
  have hlt : n < 2 ^ (n.log2 + 1) := Nat.lt_log2_self
  refine ⟨?_, by exact_mod_cast hlt⟩
  rw [zpow_natCast]
  exact_mod_cast Nat.log2_self_le hn.ne'

/-- The logarithm of a quotient is the difference of the two, or one less. -/
theorem log2_div_bounds {num den : ℕ} (hnum : 0 < num) (hden : 0 < den) :
    (2 : ℚ) ^ ((num.log2 : ℤ) - den.log2 - 1) ≤ num / den ∧
      (num / den : ℚ) < 2 ^ ((num.log2 : ℤ) - den.log2 + 1) := by
  have hdenPos : (0 : ℚ) < den := by exact_mod_cast hden
  obtain ⟨hnumLow, hnumHigh⟩ := log2_bounds hnum
  obtain ⟨hdenLow, hdenHigh⟩ := log2_bounds hden
  constructor
  · rw [le_div_iff₀ hdenPos]
    calc (2 : ℚ) ^ ((num.log2 : ℤ) - den.log2 - 1) * den
        ≤ 2 ^ ((num.log2 : ℤ) - den.log2 - 1) * 2 ^ ((den.log2 : ℤ) + 1) := by gcongr
      _ = 2 ^ (num.log2 : ℤ) := by rw [← zpow_add₀ two_ne_zero]; congr 1; ring
      _ ≤ num := hnumLow
  · rw [div_lt_iff₀ hdenPos]
    calc (num : ℚ) < 2 ^ ((num.log2 : ℤ) + 1) := hnumHigh
      _ = 2 ^ ((num.log2 : ℤ) - den.log2 + 1) * 2 ^ (den.log2 : ℤ) := by
        rw [← zpow_add₀ two_ne_zero]; congr 1; ring
      _ ≤ 2 ^ ((num.log2 : ℤ) - den.log2 + 1) * den := by gcongr

/-- The exponent leaves 53 digits before the point, if it is not the smallest there is. -/
theorem exponentFor_eq {num den : ℕ} (hnum : 0 < num) (hden : 0 < den) :
    exponentFor num den = max (Int.log 2 (num / den : ℚ) - 52) (-1074) := by
  obtain ⟨hlow, hhigh⟩ := log2_div_bounds hnum hden
  have hsmall (e : ℤ) : num * twoTo (-e).toNat < den * twoTo e.toNat * twoTo 52 ↔
      (num / den : ℚ) < 2 ^ (e + 52) := by
    have hpos : (0 : ℚ) < ((den * twoTo e.toNat : ℕ) : ℚ) := by
      exact_mod_cast Nat.mul_pos hden (twoTo_pos _)
    rw [← Nat.cast_lt (α := ℚ), Nat.cast_mul (den * _), twoTo_cast 52, ← div_lt_iff₀' hpos,
      mul_twoTo_div num hden e, div_lt_iff₀ (two_zpow_pos e), mul_comm, zpow_add₀ two_ne_zero]
    rfl
  unfold exponentFor
  simp only [hsmall]
  split_ifs with h
  · rw [sub_add_cancel] at h
    rw [log_eq_of_bounds hlow (by rwa [sub_add_cancel])]
    omega
  · rw [not_lt, sub_add_cancel] at h
    rw [log_eq_of_bounds h hhigh]

/-- The exponent to which a positive magnitude is rounded. -/
def exponentOf (q : ℚ) : ℤ := max (Int.log 2 q - 52) (-1074)

section Exponent

variable {p q : ℚ}

theorem exponentOf_mono (hp : 0 < p) (hpq : p ≤ q) : exponentOf p ≤ exponentOf q := by
  have := Int.log_mono_right (b := 2) hp hpq
  unfold exponentOf
  omega

theorem lt_two_zpow_exponentOf (q : ℚ) : q < 2 ^ (exponentOf q + 53) := by
  have hlog : q < 2 ^ (Int.log 2 q + 1) := Int.lt_zpow_succ_log_self Nat.one_lt_two q
  refine lt_of_lt_of_le hlog (two_zpow_le ?_)
  unfold exponentOf
  omega

theorem two_zpow_exponentOf_le (hq : 0 < q) (hnormal : exponentOf q ≠ -1074) :
    2 ^ (exponentOf q + 52) ≤ q := by
  have hlog : 2 ^ Int.log 2 q ≤ q := Int.zpow_log_le_self Nat.one_lt_two hq
  refine le_trans (two_zpow_le ?_) hlog
  unfold exponentOf at *
  omega

theorem exponentOf_le_of_lt {e : ℤ} (he : -1074 ≤ e) (hq : 0 < q) (hlt : q < 2 ^ (e + 53)) :
    exponentOf q ≤ e := by
  have := (Int.lt_zpow_iff_log_lt Nat.one_lt_two hq).1 hlt
  unfold exponentOf
  omega

end Exponent

/-! ## The nearest number to a magnitude -/

/-- The nearest number to a positive magnitude, if there were no largest one. -/
def nearest (q : ℚ) : ℚ := nearestEven (q / 2 ^ exponentOf q) * 2 ^ exponentOf q

theorem nearest_zero : nearest 0 = 0 := by
  have hzero : nearestEven 0 = 0 := by exact_mod_cast nearestEven_intCast 0
  unfold nearest
  rw [zero_div, hzero, Int.cast_zero, zero_mul]

theorem roundMagnitude_eq {q : ℚ} (hq : 0 < q) :
    roundMagnitude q = if 2 ^ 1024 ≤ nearest q then none else some (nearest q) := by
  have htop : (2 : ℚ) ^ (1024 : ℤ) = 2 ^ 1024 := zpow_natCast 2 1024
  have hnum : 0 < q.num.natAbs := Int.natAbs_pos.2 (Rat.num_pos.2 hq).ne'
  have hvalue : (q.num.natAbs : ℚ) / q.den = q := by
    have habs : ((q.num.natAbs : ℤ) : ℚ) = q.num := by
      rw [Int.natAbs_of_nonneg (Rat.num_pos.2 hq).le]
    rw [← Int.cast_natCast, habs, Rat.num_div_den]
  have hexponent : exponentFor q.num.natAbs q.den = exponentOf q := by
    rw [exponentFor_eq hnum q.den_pos, hvalue]
    rfl
  have hsignificand : ((significand q.num.natAbs q.den (exponentOf q) : ℕ) : ℚ) =
      nearestEven (q / 2 ^ exponentOf q) := by
    rw [← Int.cast_natCast, significand_eq _ q.den_pos, hvalue]
  unfold roundMagnitude nearest
  simp only [hexponent, hsignificand, powerOfTwo_eq, htop]

/-- A multiple of a power of two that has 53 digits at most. -/
def Representable (q : ℚ) : Prop := ∃ n e : ℤ, |n| ≤ 2 ^ 53 ∧ -1074 ≤ e ∧ q = n * 2 ^ e

section Nearest

variable {p q : ℚ}

theorem nearestEven_nonneg (hq : 0 ≤ q) : 0 ≤ nearestEven q := by
  have := nearestEven_mono (show ((0 : ℤ) : ℚ) ≤ q by exact_mod_cast hq)
  rwa [nearestEven_intCast] at this

theorem nearest_nonneg (hq : 0 ≤ q) : 0 ≤ nearest q := by
  have hn := nearestEven_nonneg (div_nonneg hq (two_zpow_pos (exponentOf q)).le)
  exact mul_nonneg (by exact_mod_cast hn) (two_zpow_pos _).le

/-- The digits of the nearest number are 53 at most, or a power of two. -/
theorem nearestEven_exponentOf_le (q : ℚ) : nearestEven (q / 2 ^ exponentOf q) ≤ 2 ^ 53 := by
  have hlt : q / 2 ^ exponentOf q ≤ ((2 ^ 53 : ℤ) : ℚ) := by
    rw [div_le_iff₀ (two_zpow_pos _)]
    refine (lt_two_zpow_exponentOf q).le.trans_eq ?_
    rw [add_comm, zpow_add₀ two_ne_zero]
    norm_num
  have := nearestEven_mono hlt
  rwa [nearestEven_intCast] at this

theorem nearest_le_two_zpow (q : ℚ) : nearest q ≤ 2 ^ (exponentOf q + 53) := by
  have hn : (nearestEven (q / 2 ^ exponentOf q) : ℚ) ≤ 2 ^ 53 := by
    exact_mod_cast nearestEven_exponentOf_le q
  calc nearest q ≤ 2 ^ 53 * 2 ^ exponentOf q := mul_le_mul_of_nonneg_right hn (two_zpow_pos _).le
    _ = 2 ^ (exponentOf q + 53) := by
      rw [add_comm, zpow_add₀ two_ne_zero]
      norm_num

theorem two_zpow_le_nearest (hq : 0 < q) (hnormal : exponentOf q ≠ -1074) :
    2 ^ (exponentOf q + 52) ≤ nearest q := by
  have hle : (((2 ^ 52 : ℤ) : ℤ) : ℚ) ≤ q / 2 ^ exponentOf q := by
    rw [le_div_iff₀ (two_zpow_pos _)]
    refine le_trans (le_of_eq ?_) (two_zpow_exponentOf_le hq hnormal)
    rw [add_comm, zpow_add₀ two_ne_zero]
    norm_num
  have hn := nearestEven_mono hle
  rw [nearestEven_intCast] at hn
  calc (2 : ℚ) ^ (exponentOf q + 52) = 2 ^ 52 * 2 ^ exponentOf q := by
        rw [add_comm, zpow_add₀ two_ne_zero]
        norm_num
    _ ≤ nearest q := mul_le_mul_of_nonneg_right (by exact_mod_cast hn) (two_zpow_pos _).le

theorem nearest_mono (hp : 0 ≤ p) (hpq : p ≤ q) : nearest p ≤ nearest q := by
  rcases hp.eq_or_lt with rfl | hp
  · rw [nearest_zero]
    exact nearest_nonneg hpq
  rcases (exponentOf_mono hp hpq).lt_or_eq with hlt | heq
  · -- a power of two lies between the two
    have hnormal : exponentOf q ≠ -1074 := by
      unfold exponentOf at *
      omega
    calc nearest p ≤ 2 ^ (exponentOf p + 53) := nearest_le_two_zpow p
      _ ≤ 2 ^ (exponentOf q + 52) := two_zpow_le (by omega)
      _ ≤ nearest q := two_zpow_le_nearest (hp.trans_le hpq) hnormal
  · unfold nearest
    rw [heq]
    have hn := nearestEven_mono (div_le_div_of_nonneg_right hpq (two_zpow_pos (exponentOf q)).le)
    exact mul_le_mul_of_nonneg_right (by exact_mod_cast hn) (two_zpow_pos _).le

theorem representable_nearest (hq : 0 ≤ q) : Representable (nearest q) := by
  refine ⟨nearestEven (q / 2 ^ exponentOf q), exponentOf q, ?_, le_max_right _ _, rfl⟩
  rw [abs_of_nonneg (nearestEven_nonneg (div_nonneg hq (two_zpow_pos _).le))]
  exact nearestEven_exponentOf_le q

/-- A number is the nearest to itself. -/
theorem nearest_eq_self (hq : 0 < q) (h : Representable q) : nearest q = q := by
  obtain ⟨n, e, hn, he, hvalue⟩ := h
  have hwhole : ∃ m : ℤ, q / 2 ^ exponentOf q = m := by
    rcases le_or_gt (exponentOf q) e with hle | hlt
    · obtain ⟨k, hk⟩ := Int.eq_ofNat_of_zero_le (sub_nonneg.2 hle)
      refine ⟨n * 2 ^ k, ?_⟩
      have hshift : (2 : ℚ) ^ e = 2 ^ k * 2 ^ exponentOf q := by
        rw [← zpow_natCast, ← zpow_add₀ two_ne_zero]
        congr 1
        omega
      rw [div_eq_iff (two_zpow_pos _).ne', Int.cast_mul, mul_assoc, Int.cast_pow, Int.cast_ofNat,
        ← hshift, ← hvalue]
    · -- then the magnitude is a power of two with one digit less
      have hlow := two_zpow_exponentOf_le hq (by omega)
      have hhigh : q ≤ 2 ^ (e + 53) := by
        rw [hvalue, add_comm, zpow_add₀ two_ne_zero]
        refine mul_le_mul_of_nonneg_right ?_ (two_zpow_pos _).le
        exact_mod_cast (le_abs_self n).trans hn
      have hsame : q = 2 ^ (exponentOf q + 52) :=
        le_antisymm (hhigh.trans (two_zpow_le (by omega))) hlow
      refine ⟨2 ^ 52, ?_⟩
      rw [div_eq_iff (two_zpow_pos _).ne']
      conv_lhs => rw [hsame]
      rw [add_comm, zpow_add₀ two_ne_zero]
      norm_num
  obtain ⟨m, hm⟩ := hwhole
  unfold nearest
  rw [hm, nearestEven_intCast, ← hm, div_mul_cancel₀ _ (two_zpow_pos _).ne']

/-- The nearest number to a magnitude below a power of two is off by half its last place at most. -/
theorem abs_nearest_sub_le {e : ℤ} (he : -1074 ≤ e) (hq : 0 ≤ q) (hlt : q < 2 ^ (e + 53)) :
    |nearest q - q| ≤ 2 ^ e / 2 := by
  rcases hq.eq_or_lt with rfl | hq
  · rw [nearest_zero, sub_zero, abs_zero]
    exact (div_pos (two_zpow_pos e) two_pos).le
  · have hplace := two_zpow_pos (exponentOf q)
    have hvalue : nearest q - q =
        (nearestEven (q / 2 ^ exponentOf q) - q / 2 ^ exponentOf q) * 2 ^ exponentOf q := by
      rw [sub_mul, div_mul_cancel₀ _ hplace.ne']
      rfl
    rw [hvalue, abs_mul, abs_of_pos hplace]
    calc |(nearestEven (q / 2 ^ exponentOf q) : ℚ) - q / 2 ^ exponentOf q| * 2 ^ exponentOf q
        ≤ 1 / 2 * 2 ^ exponentOf q :=
          mul_le_mul_of_nonneg_right (abs_nearestEven_sub_le _) hplace.le
      _ ≤ 1 / 2 * 2 ^ e := by
          refine mul_le_mul_of_nonneg_left (two_zpow_le ?_) (by norm_num)
          exact exponentOf_le_of_lt he hq hlt
      _ = 2 ^ e / 2 := by ring

end Nearest

/-! ## The largest number -/

/-- Half the last place of the largest number. -/
def halfPlace : ℚ := 2 ^ 970

def largest : ℚ := (2 ^ 54 - 2) * halfPlace

/-- Half a last place above the largest number: what is not below it is rounded to infinity. -/
def limit : ℚ := (2 ^ 54 - 1) * halfPlace

theorem halfPlace_pos : 0 < halfPlace := pow_pos two_pos 970

theorem one_le_halfPlace : 1 ≤ halfPlace := one_le_pow₀ one_le_two

theorem two_pow_971 : (2 : ℚ) ^ 971 = 2 * halfPlace := pow_succ' 2 970

theorem two_pow_1023 : (2 : ℚ) ^ 1023 = 2 ^ 53 * halfPlace := pow_add 2 53 970

theorem two_pow_1024 : (2 : ℚ) ^ 1024 = 2 ^ 54 * halfPlace := pow_add 2 54 970

theorem largest_pos : 0 < largest := mul_pos (by norm_num) halfPlace_pos

theorem largest_lt_limit : largest < limit := mul_lt_mul_of_pos_right (by norm_num) halfPlace_pos

theorem limit_lt_top : limit < 2 ^ 1024 := by
  rw [two_pow_1024]
  exact mul_lt_mul_of_pos_right (by norm_num) halfPlace_pos

theorem limit_pos : 0 < limit := largest_pos.trans largest_lt_limit

section Largest

variable {q : ℚ}

theorem nearest_le_largest (hq : 0 ≤ q) (hlt : q < limit) : nearest q ≤ largest := by
  rcases hq.eq_or_lt with rfl | hq
  · rw [nearest_zero]
    exact largest_pos.le
  have hexponent : exponentOf q ≤ 971 := by
    have htop : (2 : ℚ) ^ ((971 : ℤ) + 53) = 2 ^ 1024 := zpow_natCast 2 1024
    exact exponentOf_le_of_lt (by norm_num) hq (hlt.trans (htop ▸ limit_lt_top))
  rcases hexponent.lt_or_eq with hbelow | htop
  · calc nearest q ≤ 2 ^ (exponentOf q + 53) := nearest_le_two_zpow q
      _ ≤ 2 ^ (1023 : ℤ) := two_zpow_le (by omega)
      _ = 2 ^ 53 * halfPlace := (zpow_natCast 2 1023).trans two_pow_1023
      _ ≤ largest := mul_le_mul_of_nonneg_right (by norm_num) halfPlace_pos.le
  · -- less than half a last place above the largest number
    have hunit : (2 : ℚ) ^ (971 : ℤ) = 2 * halfPlace := (zpow_natCast 2 971).trans two_pow_971
    have hgap : q / 2 ^ exponentOf q < ((2 ^ 53 - 1 : ℤ) : ℚ) + 1 / 2 := by
      rw [htop, hunit, div_lt_iff₀ (mul_pos two_pos halfPlace_pos)]
      refine hlt.trans_eq ?_
      unfold limit
      push_cast
      ring
    have hn : (nearestEven (q / 2 ^ exponentOf q) : ℚ) ≤ ((2 ^ 53 - 1 : ℤ) : ℚ) := by
      exact_mod_cast nearestEven_le_of_lt hgap
    unfold nearest
    refine (mul_le_mul_of_nonneg_right hn (two_zpow_pos _).le).trans_eq ?_
    rw [htop, hunit]
    unfold largest
    push_cast
    ring

theorem exponentOf_limit : exponentOf limit = 971 := by
  have hlow : (2 : ℚ) ^ (1023 : ℤ) ≤ limit := by
    have hhalf : (2 : ℚ) ^ (1023 : ℤ) = 2 ^ 53 * halfPlace :=
      (zpow_natCast 2 1023).trans two_pow_1023
    rw [hhalf]
    exact mul_le_mul_of_nonneg_right (by norm_num) halfPlace_pos.le
  have hhigh : limit < (2 : ℚ) ^ ((1023 : ℤ) + 1) := by
    have htop : (2 : ℚ) ^ ((1023 : ℤ) + 1) = 2 ^ 1024 := zpow_natCast 2 1024
    rw [htop]
    exact limit_lt_top
  unfold exponentOf
  rw [log_eq_of_bounds hlow hhigh]
  norm_num

/-- A tie, which goes to the even side, beyond the largest number. -/
theorem nearest_limit : nearest limit = 2 ^ 1024 := by
  have hunit : (2 : ℚ) ^ (971 : ℤ) = 2 * halfPlace := (zpow_natCast 2 971).trans two_pow_971
  have hhalf : limit / (2 * halfPlace) = 18014398509481983 / 2 := by
    unfold limit
    rw [div_eq_div_iff (mul_pos two_pos halfPlace_pos).ne' two_ne_zero]
    ring
  have heven : nearestEven (18014398509481983 / 2) = 2 ^ 53 := by decide +kernel
  unfold nearest
  rw [exponentOf_limit, hunit, hhalf, heven, two_pow_1024]
  push_cast
  ring

theorem roundMagnitude_of_lt (hq : 0 < q) (hlt : q < limit) :
    roundMagnitude q = some (nearest q) := by
  rw [roundMagnitude_eq hq, if_neg]
  exact not_le.2 ((nearest_le_largest hq.le hlt).trans_lt (largest_lt_limit.trans limit_lt_top))

theorem roundMagnitude_of_le (hle : limit ≤ q) : roundMagnitude q = none := by
  rw [roundMagnitude_eq (limit_pos.trans_le hle), if_pos]
  rw [← nearest_limit]
  exact nearest_mono limit_pos.le hle

end Largest

/-! ## Rounding with a sign -/

/-- The nearest number, if there were no largest one. -/
def rounded (q : ℚ) : ℚ := if q < 0 then -nearest (-q) else nearest q

section Rounded

variable {p q : ℚ}

theorem rounded_mono : Monotone rounded := by
  intro p q hpq
  unfold rounded
  split_ifs with hp hq hq
  · exact neg_le_neg (nearest_mono (by linarith) (by linarith))
  · exact (neg_nonpos.2 (nearest_nonneg (by linarith))).trans (nearest_nonneg (not_lt.1 hq))
  · linarith
  · exact nearest_mono (not_lt.1 hp) hpq

theorem rounded_nonneg (hq : 0 ≤ q) : 0 ≤ rounded q := by
  unfold rounded
  rw [if_neg (not_lt.2 hq)]
  exact nearest_nonneg hq

theorem rounded_neg (q : ℚ) : rounded (-q) = -rounded q := by
  unfold rounded
  rcases lt_trichotomy q 0 with hq | rfl | hq
  · rw [if_neg (show ¬ -q < 0 by linarith), if_pos hq, neg_neg]
  · simp [nearest_zero]
  · rw [if_pos (show -q < 0 by linarith), if_neg (show ¬ q < 0 by linarith), neg_neg]

theorem representable_rounded (q : ℚ) : Representable (rounded q) := by
  unfold rounded
  split_ifs with hq
  · obtain ⟨n, e, hn, he, hvalue⟩ := representable_nearest (show 0 ≤ -q by linarith)
    exact ⟨-n, e, by rwa [abs_neg], he, by rw [hvalue, Int.cast_neg, neg_mul]⟩
  · exact representable_nearest (not_lt.1 hq)

theorem rounded_eq_self (h : Representable q) : rounded q = q := by
  unfold rounded
  split_ifs with hq
  · obtain ⟨n, e, hn, he, hvalue⟩ := h
    rw [nearest_eq_self (by linarith) ⟨-n, e, by rwa [abs_neg], he, by
      rw [hvalue, Int.cast_neg, neg_mul]⟩, neg_neg]
  · rcases (not_lt.1 hq).eq_or_lt with rfl | hq
    · exact nearest_zero
    · exact nearest_eq_self hq h

/-- Rounding what is below a power of two is off by half a last place at most. -/
theorem abs_rounded_sub_le {e : ℤ} (he : -1074 ≤ e) (hq : |q| < 2 ^ (e + 53)) :
    |rounded q - q| ≤ 2 ^ e / 2 := by
  unfold rounded
  split_ifs with hneg
  · rw [abs_of_neg hneg] at hq
    have hturn : -nearest (-q) - q = -(nearest (-q) - -q) := by ring
    rw [hturn, abs_neg]
    exact abs_nearest_sub_le he (by linarith) hq
  · rw [not_lt] at hneg
    rw [abs_of_nonneg hneg] at hq
    exact abs_nearest_sub_le he hneg hq

theorem abs_rounded_le_largest (h : |q| < limit) : |rounded q| ≤ largest := by
  unfold rounded
  split_ifs with hq
  · rw [abs_of_neg hq] at h
    rw [abs_neg, abs_of_nonneg (nearest_nonneg (by linarith))]
    exact nearest_le_largest (by linarith) h
  · rw [not_lt] at hq
    rw [abs_of_nonneg hq] at h
    rw [abs_of_nonneg (nearest_nonneg hq)]
    exact nearest_le_largest hq h

/-- The cases of rounding: what is not below the limit becomes infinite, and a negative number that is
too small keeps its sign. -/
theorem round_eq (q : ℚ) : round q =
    if limit ≤ |q| then .infinity (q < 0)
    else if rounded q = 0 then zero (q < 0)
    else .finite (rounded q) := by
  unfold round zero
  by_cases hzero : q = 0
  · subst hzero
    have hrounded : rounded 0 = 0 := by
      unfold rounded
      rw [if_neg (lt_irrefl 0), nearest_zero]
    rw [if_pos rfl, abs_zero, if_neg (not_le.2 limit_pos), if_pos hrounded]
    simp
  rw [if_neg hzero]
  have habs : (if q < 0 then -q else q) = |q| := by
    split_ifs with hneg
    · exact (abs_of_neg hneg).symm
    · exact (abs_of_nonneg (not_lt.1 hneg)).symm
  have hpos : 0 < |q| := abs_pos.2 hzero
  rw [habs]
  by_cases hlarge : limit ≤ |q|
  · rw [if_pos hlarge, roundMagnitude_of_le hlarge]
  · rw [if_neg hlarge, roundMagnitude_of_lt hpos (not_le.1 hlarge)]
    unfold rounded
    by_cases hneg : q < 0
    · simp [hneg, abs_of_neg hneg]
    · simp [hneg, abs_of_nonneg (not_lt.1 hneg)]

theorem toRat?_round (q : ℚ) :
    (round q).toRat? = if limit ≤ |q| then none else some (rounded q) := by
  rw [round_eq]
  split_ifs with hlarge hzero
  · rfl
  · rw [hzero]
    unfold zero
    split_ifs <;> rfl
  · rfl

/-- A number that is not too large is rounded to itself. -/
theorem round_of_representable (h : Representable q) (hlt : |q| < limit) : round q = .finite q := by
  rw [round_eq, if_neg (not_le.2 hlt), rounded_eq_self h]
  split_ifs with hzero
  · subst hzero
    rfl
  · rfl

end Rounded

/-! ## Arithmetic -/

/-- The rational of a finite number is a floating-point number. -/
def IsProper : Double → Prop
  | .finite value => round value = .finite value
  | _ => True

theorem isProper_round (q : ℚ) : (round q).IsProper := by
  rw [round_eq]
  split_ifs with hlarge hzero
  · trivial
  · unfold zero
    split_ifs
    · trivial
    · exact if_pos rfl
  · refine round_of_representable (representable_rounded q) ?_
    exact (abs_rounded_le_largest (not_le.1 hlarge)).trans_lt largest_lt_limit

theorem representable_of_isProper {q : ℚ} (h : (finite q).IsProper) :
    Representable q ∧ |q| ≤ largest := by
  have hself : (round q).toRat? = some q := congrArg toRat? h
  rw [toRat?_round] at hself
  split_ifs at hself with hlarge
  have hrounded := Option.some.inj hself
  constructor
  · rw [← hrounded]
    exact representable_rounded q
  · rw [← hrounded]
    exact abs_rounded_le_largest (not_le.1 hlarge)

section Arithmetic

variable {x y : Double} {p q : ℚ}

/-- A number with a value is that value, or the zero below zero. -/
theorem eq_of_toRat? (h : x.toRat? = some p) : x = .finite p ∨ x = .negZero ∧ p = 0 := by
  cases x with
  | finite value => exact .inl (congrArg finite (Option.some.inj h))
  | negZero => exact .inr ⟨rfl, (Option.some.inj h).symm⟩
  | infinity => cases h
  | nan => cases h

theorem abs_toRat?_le (hx : x.IsProper) (hq : x.toRat? = some q) : |q| ≤ largest := by
  rcases eq_of_toRat? hq with rfl | ⟨rfl, rfl⟩
  · exact (representable_of_isProper hx).2
  · rw [abs_zero]
    exact largest_pos.le

theorem neg_spec (hx : x.IsProper) (hq : x.toRat? = some q) :
    x.neg.IsProper ∧ x.neg.toRat? = some (-q) := by
  rcases eq_of_toRat? hq with rfl | ⟨rfl, rfl⟩
  · show (if q = 0 then negZero else finite (-q)).IsProper ∧
      (if q = 0 then negZero else finite (-q)).toRat? = some (-q)
    split_ifs with hzero
    · subst hzero
      exact ⟨trivial, by rw [neg_zero]; rfl⟩
    · refine ⟨?_, rfl⟩
      obtain ⟨⟨n, e, hn, he, hvalue⟩, hlargest⟩ := representable_of_isProper hx
      refine round_of_representable ⟨-n, e, by rwa [abs_neg], he, ?_⟩ ?_
      · rw [hvalue, Int.cast_neg, neg_mul]
      · rw [abs_neg]
        exact hlargest.trans_lt largest_lt_limit
  · exact ⟨if_pos rfl, by rw [neg_zero]; rfl⟩

theorem isProper_zero (negative : Bool) : (zero negative).IsProper := by
  unfold zero
  cases negative with
  | true => trivial
  | false => exact if_pos rfl

/-- A sum is the exact one, rounded. -/
theorem toRat?_add (hx : x.IsProper) (hy : y.IsProper) (hp : x.toRat? = some p)
    (hq : y.toRat? = some q) : (x.add y).toRat? = (round (p + q)).toRat? := by
  rcases eq_of_toRat? hp with rfl | ⟨rfl, rfl⟩
  · rcases eq_of_toRat? hq with rfl | ⟨rfl, rfl⟩
    · rfl
    · rw [add_zero, show round p = .finite p from hx]
      rfl
  · rcases eq_of_toRat? hq with rfl | ⟨rfl, rfl⟩
    · rw [zero_add, show round q = .finite q from hy]
      rfl
    · rw [add_zero]
      rfl

theorem isProper_add (hx : x.IsProper) (hy : y.IsProper) : (x.add y).IsProper := by
  cases x with
  | finite a =>
    cases y with
    | finite b => exact isProper_round _
    | negZero => exact hx
    | infinity => trivial
    | nan => trivial
  | negZero =>
    cases y with
    | finite b => exact hy
    | negZero => trivial
    | infinity => trivial
    | nan => trivial
  | infinity m =>
    cases y with
    | infinity n =>
      show (if m = n then infinity m else nan).IsProper
      split_ifs <;> trivial
    | finite => trivial
    | negZero => trivial
    | nan => trivial
  | nan => trivial

theorem mul_eq (hp : x.toRat? = some p) (hq : y.toRat? = some q) :
    x.mul y = if p = 0 || q = 0 then zero (x.isNegative != y.isNegative) else round (p * q) := by
  rcases eq_of_toRat? hp with rfl | ⟨rfl, rfl⟩
  · rcases eq_of_toRat? hq with rfl | ⟨rfl, rfl⟩
    · rfl
    · rfl
  · rcases eq_of_toRat? hq with rfl | ⟨rfl, rfl⟩
    · rfl
    · rfl

/-- A product of finite numbers is the exact one, rounded. -/
theorem mul_spec (hp : x.toRat? = some p) (hq : y.toRat? = some q) :
    (x.mul y).IsProper ∧ (x.mul y).toRat? = (round (p * q)).toRat? := by
  rw [mul_eq hp hq]
  split_ifs with hzero
  · refine ⟨isProper_zero _, ?_⟩
    have hproduct : p * q = 0 := by simpa using hzero
    rw [hproduct]
    unfold zero
    split_ifs <;> rfl
  · exact ⟨isProper_round _, rfl⟩

/-- A product that is not below zero is infinite or finite, never what is no number. -/
theorem mul_nonneg_cases (hp : x.toRat? = some p) (hq : y.toRat? = some q) (hpos : 0 ≤ p * q) :
    x.mul y = .infinity false ∨
      ∃ r, (x.mul y).IsProper ∧ (x.mul y).toRat? = some r ∧ 0 ≤ r := by
  obtain ⟨hproper, hproduct⟩ := mul_spec hp hq
  by_cases hlarge : limit ≤ |p * q|
  · left
    have hnonzero : ¬ (p = 0 || q = 0) = true := by
      intro hzero
      have hvanishes : p * q = 0 := by simpa using hzero
      rw [hvanishes, abs_zero] at hlarge
      exact not_le.2 limit_pos hlarge
    rw [mul_eq hp hq, if_neg hnonzero, round_eq, if_pos hlarge, decide_eq_false (not_lt.2 hpos)]
  · rw [toRat?_round, if_neg hlarge] at hproduct
    exact .inr ⟨_, hproper, hproduct, rounded_nonneg hpos⟩

end Arithmetic

end Double

end CodeReview
