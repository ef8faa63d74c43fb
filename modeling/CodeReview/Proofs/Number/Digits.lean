/-
Decimal digits: the number that they spell, and the digits of a number.
-/
import CodeReview.Json.Reader
import Mathlib.Tactic

namespace CodeReview.Integer

theorem ofDigits_append (high low : List Char) :
    ofDigits (high ++ low) = 10 ^ low.length * ofDigits high + ofDigits low := by
  have h (digits : List Char) : ofDigits digits = Nat.ofDigitChars 10 digits 0 :=
    Nat.ofDigitChars_eq_foldl.symm
  rw [h, h, h, Nat.ofDigitChars_append, Nat.ofDigitChars_eq_ofDigitChars_zero]

theorem ofDigits_toDigits (n : ℕ) : ofDigits (Nat.toDigits 10 n) = n :=
  Nat.ofDigitChars_eq_foldl.symm.trans Nat.ofDigitChars_ten_toDigits

@[simp] theorem ofDigits_replicate_zero (n : ℕ) : ofDigits (List.replicate n '0') = 0 :=
  Nat.ofDigitChars_eq_foldl.symm.trans (by rw [Nat.ofDigitChars_replicate_zero, Nat.mul_zero])

theorem isDecimal_of_mem_toDigits {c : Char} {n : ℕ} (h : c ∈ Nat.toDigits 10 n) :
    Json.isDecimal c = true := by
  have hdigit := Nat.isDigit_of_mem_toDigits (by omega) (by omega) h
  simpa [Char.isDigit, Json.isDecimal, Char.le_def] using hdigit

theorem isDecimal_of_mem_zeros {c : Char} {n : ℕ} (h : c ∈ List.replicate n '0') :
    Json.isDecimal c = true := by
  rw [List.eq_of_mem_replicate h]
  rfl

/-- Digits spell a number with no more digits. -/
theorem ofDigits_lt {digits : List Char} (h : ∀ c ∈ digits, Json.isDecimal c = true) :
    ofDigits digits < 10 ^ digits.length := by
  induction digits using List.reverseRecOn with
  | nil => exact Nat.one_pos
  | append_singleton digits c ih =>
    have hdigits := ih fun d hd => h d (List.mem_append_left _ hd)
    have hc : Json.isDecimal c = true := h c (List.mem_append_right _ (List.mem_singleton_self c))
    have hlast : ofDigits [c] ≤ 9 := by
      have hbounds : '0'.toNat ≤ c.toNat ∧ c.toNat ≤ '9'.toNat := by
        simpa [Json.isDecimal, Char.le_def, UInt32.le_iff_toNat_le] using hc
      show 10 * 0 + (c.toNat - 48) ≤ 9
      have : '9'.toNat = 57 := rfl
      omega
    rw [ofDigits_append, List.length_append, List.length_singleton, pow_one, pow_succ]
    omega

/-- No number begins with a zero but zero itself. -/
theorem toDigits_eq_cons {n : ℕ} (hn : 0 < n) :
    ∃ c more, Nat.toDigits 10 n = c :: more ∧ c ≠ '0' := by
  induction n using Nat.strong_induction_on with
  | _ n ih =>
    rcases lt_or_ge n 10 with hsmall | hlarge
    · refine ⟨n.digitChar, [], Nat.toDigits_of_lt_base hsmall, fun hzero => ?_⟩
      exact hn.ne' (Nat.digitChar_eq_zero.1 hzero)
    · obtain ⟨c, more, hdigits, hc⟩ := ih (n / 10) (by omega) (by omega)
      refine ⟨c, more ++ [(n % 10).digitChar], ?_, hc⟩
      rw [Nat.toDigits_of_base_le (by omega) hlarge, hdigits, List.cons_append]

end CodeReview.Integer
