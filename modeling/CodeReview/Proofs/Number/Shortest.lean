/-
The shortest decimals read back: the digits that are found for a floating-point number, however few,
are rounded to it (`spells_shortestDigits`), since 17 digits always are.
-/
import CodeReview.Number.Shortest
import CodeReview.Proofs.Number.Rounding

namespace CodeReview.Double

/-! ## Powers of ten -/

theorem tenTo_eq (n : ℕ) : tenTo n = 10 ^ n := rfl

theorem tenTo_cast (n : ℕ) : (tenTo n : ℚ) = 10 ^ n := by exact_mod_cast tenTo_eq n

theorem ten_zpow_pos (e : ℤ) : (0 : ℚ) < 10 ^ e := zpow_pos (by norm_num) e

theorem powerOfTen_eq (e : ℤ) : powerOfTen e = 10 ^ e := by
  have hpowers := ite_powers_eq tenTo_cast 1 e
  rwa [one_mul, Nat.cast_one, Nat.cast_one, one_mul] at hpowers

theorem ten_zpow_add_natCast (e : ℤ) (n : ℕ) : (10 : ℚ) ^ (e + n) = 10 ^ e * 10 ^ n := by
  rw [zpow_add₀ (by norm_num), zpow_natCast]

/-- A decimal is rounded once. -/
theorem ofDecimal_eq (digits : ℕ) (place : ℤ) :
    ofDecimal digits place = round (digits * 10 ^ place) := by
  rw [← ite_powers_eq tenTo_cast, apply_ite round]
  rfl

/-! ## Magnitudes -/

/-- A positive floating-point number. -/
structure IsMagnitude (m : ℚ) : Prop where
  pos : 0 < m
  lt_limit : m < limit
  nearest_eq : nearest m = m

section Magnitude

variable {m q v : ℚ}

theorem nearest_of_roundMagnitude (hq : 0 < q) (h : roundMagnitude q = some m) :
    q < limit ∧ nearest q = m := by
  have hlt : q < limit := by
    by_contra hle
    rw [roundMagnitude_of_le (not_lt.1 hle)] at h
    cases h
  rw [roundMagnitude_of_lt hq hlt] at h
  exact ⟨hlt, Option.some.inj h⟩

/-- A finite number is zero or has a magnitude and a sign. -/
theorem IsProper.cases (h : (finite v).IsProper) :
    v = 0 ∨ IsMagnitude v ∨ (v < 0 ∧ IsMagnitude (-v)) := by
  have hround : (round v).toRat? = some v := by
    rw [show round v = finite v from h]
    rfl
  rw [toRat?_round] at hround
  split_ifs at hround with hlarge
  rw [not_le] at hlarge
  have hrounded : rounded v = v := Option.some.inj hround
  unfold rounded at hrounded
  rcases lt_trichotomy v 0 with hneg | hzero | hpos
  · rw [if_pos hneg] at hrounded
    rw [abs_of_neg hneg] at hlarge
    exact .inr (.inr ⟨hneg, by linarith, hlarge, by linarith⟩)
  · exact .inl hzero
  · rw [if_neg (not_lt.2 hpos.le)] at hrounded
    rw [abs_of_pos hpos] at hlarge
    exact .inr (.inl ⟨hpos, hlarge, hrounded⟩)

/-! ## Seventeen digits suffice -/

/-- From below: in units of the last place of what is rounded the floating-point number is an integer, and
less than half a unit above it. -/
theorem le_nearest_of_close (hm : IsMagnitude m) (hq : 0 < q) (hle : q ≤ m)
    (hclose : (m - q) * (2 * 10 ^ 16) ≤ m) : m ≤ nearest q := by
  have hunit := two_zpow_pos (exponentOf q)
  obtain ⟨k, hk⟩ := Int.eq_ofNat_of_zero_le (sub_nonneg.2 (exponentOf_mono hq hle))
  have hshift : (2 : ℚ) ^ exponentOf m = 2 ^ k * 2 ^ exponentOf q := by
    rw [← zpow_natCast, ← zpow_add₀ two_ne_zero]
    congr 1
    omega
  have hwhole : m = ((nearestEven (m / 2 ^ exponentOf m) * 2 ^ k : ℤ) : ℚ) * 2 ^ exponentOf q := by
    rw [Int.cast_mul, mul_assoc, Int.cast_pow, Int.cast_ofNat, ← hshift]
    exact hm.nearest_eq.symm
  generalize nearestEven (m / 2 ^ exponentOf m) * 2 ^ k = n at hwhole
  have hlt := lt_two_zpow_exponentOf q
  rw [zpow_add₀ two_ne_zero] at hlt
  have hhalf : (n : ℚ) - 1 / 2 < q / 2 ^ exponentOf q := by
    rw [lt_div_iff₀ hunit]
    norm_num at hlt
    linarith
  calc m = n * 2 ^ exponentOf q := hwhole
    _ ≤ nearest q :=
      mul_le_mul_of_nonneg_right (by exact_mod_cast le_nearestEven_of_lt hhalf) hunit.le

/-- From above: the last place of the floating-point number is that of what is rounded, which is less than
half a unit above it. -/
theorem nearest_le_of_close (hm : IsMagnitude m) (hle : m ≤ q) (hclose : (q - m) * (2 * 10 ^ 16) ≤ m) :
    nearest q ≤ m := by
  have hq : 0 < q := hm.pos.trans_le hle
  have hunit := two_zpow_pos (exponentOf m)
  have hwhole : m = (nearestEven (m / 2 ^ exponentOf m) : ℚ) * 2 ^ exponentOf m := hm.nearest_eq.symm
  have hlt := lt_two_zpow_exponentOf m
  rw [zpow_add₀ two_ne_zero, mul_comm] at hlt
  generalize nearestEven (m / 2 ^ exponentOf m) = n at hwhole
  have hn : (n : ℚ) ≤ 2 ^ 53 - 1 := by
    have hn : (n : ℚ) < 2 ^ (53 : ℤ) :=
      lt_of_mul_lt_mul_right (hwhole.symm.trans_lt hlt) hunit.le
    have hn : n < 2 ^ 53 := by exact_mod_cast hn
    have hn : n ≤ 2 ^ 53 - 1 := by omega
    exact_mod_cast hn
  norm_num at hlt hn
  have hgap : q < ((n : ℚ) + 1 / 2) * 2 ^ exponentOf m := by linarith
  have hsame : exponentOf q = exponentOf m := by
    refine le_antisymm (exponentOf_le_of_lt (le_max_right _ _) hq ?_) (exponentOf_mono hm.pos hle)
    rw [add_comm, zpow_add₀ two_ne_zero]
    refine hgap.trans (mul_lt_mul_of_pos_right ?_ hunit)
    norm_num
    linarith
  have hhalf : q / 2 ^ exponentOf q < (n : ℚ) + 1 / 2 := by
    rw [hsame, div_lt_iff₀ hunit]
    exact hgap
  calc nearest q ≤ n * 2 ^ exponentOf q :=
        mul_le_mul_of_nonneg_right (by exact_mod_cast nearestEven_le_of_lt hhalf)
          (two_zpow_pos _).le
    _ = m := by rw [hsame, ← hwhole]

/-- What differs from a floating-point number by half a unit in its 17th digit at most is rounded to it: the
last of its 53 binary digits is worth more. -/
theorem nearest_eq_of_close (hm : IsMagnitude m) (hclose : |q - m| * (2 * 10 ^ 16) ≤ m) :
    0 < q ∧ nearest q = m := by
  obtain ⟨hbelow, habove⟩ : (m - q) * (2 * 10 ^ 16) ≤ m ∧ (q - m) * (2 * 10 ^ 16) ≤ m :=
    ⟨(mul_le_mul_of_nonneg_right (by linarith [neg_abs_le (q - m)]) (by norm_num)).trans hclose,
      (mul_le_mul_of_nonneg_right (le_abs_self _) (by norm_num)).trans hclose⟩
  have hq : 0 < q := by linarith [hm.pos]
  refine ⟨hq, ?_⟩
  rcases le_total q m with hle | hle
  · exact le_antisymm ((nearest_mono hq.le hle).trans_eq hm.nearest_eq)
      (le_nearest_of_close hm hq hle hbelow)
  · exact le_antisymm (nearest_le_of_close hm hle habove)
      (hm.nearest_eq.symm.trans_le (nearest_mono hm.pos.le hle))

theorem roundMagnitude_of_close (hm : IsMagnitude m) (hclose : |q - m| * (2 * 10 ^ 16) ≤ m) :
    roundMagnitude q = some m := by
  obtain ⟨hpos, hnearest⟩ := nearest_eq_of_close hm hclose
  have hlimit : q < limit := by
    by_contra hbeyond
    have hmono := nearest_mono limit_pos.le (not_lt.1 hbeyond)
    rw [nearest_limit, hnearest] at hmono
    exact absurd (hmono.trans_lt hm.lt_limit) (not_lt.2 limit_lt_top.le)
  rw [roundMagnitude_of_lt hpos hlimit, hnearest]

/-! ## The search -/

theorem zpow_leadingPlace_le (hm : 0 < m) : (10 : ℚ) ^ leadingPlace m ≤ m := by
  unfold leadingPlace
  simp only [powerOfTen_eq]
  split_ifs with hguess
  · exact hguess
  have hnum : (10 : ℚ) ^ ((Nat.toDigits 10 m.num.natAbs).length - 1) ≤ m.num := by
    have hpos : 0 < m.num := Rat.num_pos.2 hm
    have hdigits : 10 ^ ((Nat.toDigits 10 m.num.natAbs).length - 1) ≤ m.num.natAbs := by
      rcases Nat.eq_zero_or_pos ((Nat.toDigits 10 m.num.natAbs).length - 1) with hone | hmore
      · rw [hone, pow_zero]
        omega
      · have hlonger := (Nat.length_toDigits_le_iff (n := m.num.natAbs) (b := 10) (by omega) hmore).not.1
          (by omega)
        exact not_lt.1 hlonger
    have hcast : (m.num.natAbs : ℚ) = m.num := by
      rw [← Int.cast_natCast, Int.natAbs_of_nonneg hpos.le]
    rw [← hcast]
    exact_mod_cast hdigits
  have hden : (m.den : ℚ) < 10 ^ (Nat.toDigits 10 m.den).length := by
    exact_mod_cast (Nat.length_toDigits_le_iff (by omega) Nat.length_toDigits_pos).1 (le_refl _)
  have hdenPos : (0 : ℚ) < m.den := by exact_mod_cast m.den_pos
  have hlength : 0 < (Nat.toDigits 10 m.num.natAbs).length := Nat.length_toDigits_pos
  generalize (Nat.toDigits 10 m.num.natAbs).length = a at hnum hlength
  generalize (Nat.toDigits 10 m.den).length = b at hden
  rw [← Rat.num_div_den m, le_div_iff₀ hdenPos]
  calc (10 : ℚ) ^ ((a : ℤ) - b - 1) * m.den ≤ 10 ^ ((a : ℤ) - b - 1) * 10 ^ b :=
        mul_le_mul_of_nonneg_left hden.le (ten_zpow_pos _).le
    _ = 10 ^ (a - 1) := by
        rw [← ten_zpow_add_natCast, ← zpow_natCast]
        congr 1
        omega
    _ ≤ m.num := hnum

/-- The decimal with the given digits, the last of them at `place`, reads back as the magnitude. -/
def Spells (m : ℚ) (decimal : ℕ × ℤ) : Prop :=
  0 < decimal.1 ∧ roundMagnitude (decimal.1 * 10 ^ decimal.2) = some m

theorem spells_of_readsBackAt {place : ℤ} {digits : ℕ} (h : readsBackAt m place = some digits) :
    Spells m (digits, place) := by
  unfold readsBackAt at h
  extract_lets unit below fits gapBelow gapAbove at h
  have hfits {n : ℕ} (hn : fits n = true) : roundMagnitude (n * 10 ^ place) = some m := by
    rw [← powerOfTen_eq]
    exact eq_of_beq hn
  clear_value gapAbove gapBelow fits below
  have hfound : (digits = below ∧ below ≠ 0 ∧ fits below = true) ∨
      (digits = below + 1 ∧ fits (below + 1) = true) := by
    split at h
    · next hbelow habove =>
      rw [Bool.and_eq_true, decide_eq_true_eq] at hbelow
      split_ifs at h <;> cases h
      · exact .inl ⟨rfl, hbelow⟩
      · exact .inr ⟨rfl, habove⟩
      · exact .inl ⟨rfl, hbelow⟩
      · exact .inr ⟨rfl, habove⟩
    · next hbelow _ =>
      rw [Bool.and_eq_true, decide_eq_true_eq] at hbelow
      cases h
      exact .inl ⟨rfl, hbelow⟩
    · next habove =>
      cases h
      exact .inr ⟨rfl, habove⟩
    · cases h
  rcases hfound with ⟨rfl, hne, hround⟩ | ⟨rfl, hround⟩
  · exact ⟨Nat.pos_of_ne_zero hne, hfits hround⟩
  · exact ⟨Nat.succ_pos _, hfits hround⟩

/-- At the 17th digit one of the two decimals next to a floating-point number reads back as it. -/
theorem isSome_readsBackAt (hm : IsMagnitude m) : (readsBackAt m (leadingPlace m - 16)).isSome := by
  have hlead := zpow_leadingPlace_le hm.pos
  rw [← sub_add_cancel (leadingPlace m) 16] at hlead
  rw [show (16 : ℤ) = (16 : ℕ) from rfl, ten_zpow_add_natCast, ← powerOfTen_eq] at hlead
  have hunit := ten_zpow_pos (leadingPlace m - (16 : ℕ))
  rw [← powerOfTen_eq] at hunit
  unfold readsBackAt
  extract_lets unit below fits gapBelow gapAbove
  have hle : below * unit ≤ m ∧ m < (below + 1) * unit := by
    have hfloor : (below : ℤ) = ⌊m / unit⌋ :=
      Int.toNat_of_nonneg (Int.floor_nonneg.2 (div_pos hm.pos hunit).le)
    have hbelow := Int.floor_le (m / unit)
    have habove := Int.lt_floor_add_one (m / unit)
    rw [← hfloor, Int.cast_natCast] at hbelow habove
    exact ⟨(le_div_iff₀ hunit).1 hbelow, (div_lt_iff₀ hunit).1 habove⟩
  have hfits {n : ℕ} (hclose : |n * unit - m| * 2 ≤ unit) : fits n = true := by
    have hlarge : unit * 10 ^ 16 ≤ m := hlead
    exact beq_iff_eq.2 (roundMagnitude_of_close hm (by linarith))
  have hone : below ≠ 0 := by
    have hlarge : unit * 10 ^ 16 ≤ m := hlead
    intro hzero
    rw [hzero] at hle
    norm_num at hle hlarge
    linarith [hle.2, show 0 < unit from hunit]
  clear_value fits below unit
  -- the nearer of the two is no further than half a unit
  rcases le_total ((m - below * unit) * 2) unit with hnear | hfar
  · have hround := hfits (n := below) (by rw [abs_of_nonpos (by linarith)]; linarith)
    rw [decide_eq_true hone, hround]
    cases fits (below + 1) with
    | false => rfl
    | true =>
      simp only [Bool.and_self]
      split_ifs <;> rfl
  · have hround := hfits (n := below + 1) (by
      rw [abs_of_nonneg (by push_cast; linarith)]
      push_cast
      linarith)
    rw [hround]
    cases decide (below ≠ 0) && fits below with
    | false => rfl
    | true =>
      dsimp only
      split_ifs <;> rfl

theorem spells_searchDigits {lead : ℤ} {fuel count : ℕ}
    (hlast : (readsBackAt m (lead - (count + fuel : ℕ))).isSome) :
    Spells m (searchDigits m lead fuel count) := by
  induction fuel generalizing count with
  | zero =>
    obtain ⟨digits, hdigits⟩ := Option.isSome_iff_exists.1 hlast
    rw [Nat.add_zero] at hdigits
    unfold searchDigits
    rw [hdigits]
    exact spells_of_readsBackAt hdigits
  | succ fuel ih =>
    unfold searchDigits
    cases hdigits : readsBackAt m (lead - count) with
    | some digits => exact spells_of_readsBackAt hdigits
    | none =>
      refine ih ?_
      rwa [Nat.add_right_comm, Nat.add_assoc]

theorem spells_dropTrailingZeros {fuel digits : ℕ} {place : ℤ} (h : Spells m (digits, place)) :
    Spells m (dropTrailingZeros fuel digits place) := by
  induction fuel generalizing digits place with
  | zero => exact h
  | succ fuel ih =>
    rw [dropTrailingZeros]
    split
    · next hzero =>
      simp only [Bool.and_eq_true, decide_eq_true_eq] at hzero
      obtain ⟨hpos, hround⟩ := h
      refine ih ⟨by simp only; omega, ?_⟩
      have hsame : ((digits / 10 : ℕ) : ℚ) * 10 ^ (place + 1) = digits * 10 ^ place := by
        have hdigits : (digits : ℚ) = 10 * (digits / 10 : ℕ) := by
          exact_mod_cast (Nat.mul_div_cancel' (Nat.dvd_of_mod_eq_zero hzero.2)).symm
        rw [hdigits, zpow_add_one₀ (by norm_num)]
        ring
      rw [hsame]
      exact hround
    · exact h

/-- The digits that are found for a floating-point number read back as it. -/
theorem spells_shortestDigits (hm : IsMagnitude m) : Spells m (shortestDigits m) :=
  spells_dropTrailingZeros (spells_searchDigits (isSome_readsBackAt hm))

/-! ## Decimals -/

theorem round_of_roundMagnitude (hm : IsMagnitude m) (hq : 0 < q) (h : roundMagnitude q = some m) :
    round q = finite m := by
  unfold round
  rw [if_neg hq.ne', if_neg (not_lt.2 hq.le), h]
  show (if m = 0 then _ else _) = _
  rw [if_neg hm.pos.ne', if_neg (not_lt.2 hq.le)]

theorem neg_finite (hm : IsMagnitude m) : (finite m).neg = finite (-m) := if_neg hm.pos.ne'

/-- What is not rounded to zero is half the smallest number at least. -/
theorem le_of_nearest_pos (hq : 0 < q) (h : 0 < nearest q) : (2 : ℚ) ^ (-1075 : ℤ) ≤ q := by
  by_contra htiny
  rw [not_le] at htiny
  have hexponent : exponentOf q = -1074 :=
    le_antisymm (exponentOf_le_of_lt le_rfl hq (htiny.trans_le (two_zpow_le (by norm_num))))
      (le_max_right _ _)
  have hhalf : q / 2 ^ (-1074 : ℤ) < (0 : ℤ) + 1 / 2 := by
    rw [div_lt_iff₀ (two_zpow_pos _), Int.cast_zero, zero_add, one_div, ← zpow_neg_one,
      ← zpow_add₀ two_ne_zero]
    exact htiny
  have hnone : (nearestEven (q / 2 ^ (-1074 : ℤ)) : ℚ) ≤ 0 := by
    exact_mod_cast nearestEven_le_of_lt hhalf
  unfold nearest at h
  rw [hexponent] at h
  exact absurd h (not_lt.2 (mul_nonpos_of_nonpos_of_nonneg hnone (two_zpow_pos _).le))

/-- A decimal that reads back as a floating-point number has no exponent that is out of range. -/
theorem place_bounds (hm : IsMagnitude m) {digits width : ℕ} {place : ℤ} (h : Spells m (digits, place))
    (hwidth : digits < 10 ^ width) : -(width + 400 : ℤ) ≤ place ∧ place ≤ 400 := by
  obtain ⟨hpos, hround⟩ := h
  have hdigits : (1 : ℚ) ≤ digits := by exact_mod_cast hpos
  have hunit := ten_zpow_pos place
  have hvalue : (0 : ℚ) < digits * 10 ^ place := mul_pos (by linarith) hunit
  obtain ⟨hlimit, hnearest⟩ := nearest_of_roundMagnitude hvalue hround
  constructor
  · by_contra hsmall
    -- the decimal is less than half the smallest number
    have htiny : digits * 10 ^ place < (2 : ℚ) ^ (-1075 : ℤ) := by
      have hten : (2 : ℚ) ^ 1075 ≤ 10 ^ 400 := by
        exact_mod_cast (by decide +kernel : 2 ^ 1075 ≤ 10 ^ 400)
      calc (digits : ℚ) * 10 ^ place < 10 ^ width * 10 ^ place :=
            mul_lt_mul_of_pos_right (by exact_mod_cast hwidth) hunit
        _ = 10 ^ (place + width) := by rw [ten_zpow_add_natCast, mul_comm]
        _ ≤ 10 ^ (-400 : ℤ) := zpow_le_zpow_right₀ (by norm_num) (by omega)
        _ ≤ 2 ^ (-1075 : ℤ) := by
            rw [zpow_neg, zpow_neg]
            exact inv_anti₀ (by positivity) (by exact_mod_cast hten)
    exact absurd (le_of_nearest_pos hvalue (hnearest ▸ hm.pos)) (not_le.2 htiny)
  · by_contra hlarge
    have hten : (2 : ℚ) ^ 1024 ≤ 10 ^ 400 := by
      exact_mod_cast (by decide +kernel : 2 ^ 1024 ≤ 10 ^ 400)
    have hbeyond : (10 : ℚ) ^ 400 ≤ digits * 10 ^ place := by
      have hpower : (10 : ℚ) ^ (400 : ℤ) ≤ 10 ^ place :=
        zpow_le_zpow_right₀ (by norm_num) (by omega)
      calc (10 : ℚ) ^ 400 = 10 ^ (400 : ℤ) := (zpow_natCast 10 400).symm
        _ ≤ 10 ^ place := hpower
        _ ≤ digits * 10 ^ place := le_mul_of_one_le_left hunit.le hdigits
    exact absurd (hlimit.trans limit_lt_top) (not_lt.2 (hten.trans hbeyond))

end Magnitude

end CodeReview.Double
