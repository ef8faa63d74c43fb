/-
Blanks, digits and the characters of words. A blank is no character of a word and a digit is one, whatever
the script (`isWordChar_of_isBlank`, `isWordChar_of_isDigit`).
-/
import CodeReview.Text.Blank
import CodeReview.Text.Digit
import CodeReview.Text.Word
import Mathlib.Tactic

namespace CodeReview.Text

variable {c : Char}

/-! ## Blanks -/

/-- The places of the blanks among the characters. -/
def blankCodes : List ℕ :=
  [9, 10, 11, 12, 13, 28, 29, 30, 31, 32, 0x85, 0xA0, 0x1680, 0x2000, 0x2001, 0x2002, 0x2003, 0x2004,
    0x2005, 0x2006, 0x2007, 0x2008, 0x2009, 0x200A, 0x2028, 0x2029, 0x202F, 0x205F, 0x3000]

theorem toNat_mem_blankCodes (h : isBlank c = true) : c.toNat ∈ blankCodes := by
  unfold isBlank at h
  simp only [Bool.or_eq_true, Bool.and_eq_true, decide_eq_true_eq, beq_iff_eq] at h
  simp only [blankCodes, List.mem_cons, List.not_mem_nil, or_false]
  omega

/-- A blank is no character of a word. -/
theorem isWordChar_of_isBlank (h : isBlank c = true) : isWordChar c = false := by
  have hall : ∀ n ∈ blankCodes, isWordChar (Char.ofNat n) = false := by decide +kernel
  have hc := hall c.toNat (toNat_mem_blankCodes h)
  rwa [Char.ofNat_toNat] at hc

/-! ## Digits -/

theorem exists_digitZero {n : ℕ} (h : digitValue? c = some n) :
    ∃ start ∈ digitZeros, c.toNat = start + n ∧ n < 10 := by
  unfold digitValue? at h
  obtain ⟨start, hfind, rfl⟩ := Option.map_eq_some_iff.1 h
  have hrange := List.find?_some hfind
  rw [Bool.and_eq_true, decide_eq_true_eq, decide_eq_true_eq] at hrange
  exact ⟨start, List.mem_of_find?_eq_some hfind, by omega, by omega⟩

/-- The ASCII digits come first among the digits. -/
theorem digitValue?_of_ascii (h : 48 ≤ c.toNat ∧ c.toNat ≤ 57) : digitValue? c = some (c.toNat - 48) := by
  unfold digitValue? digitZeros
  rw [List.find?_cons_of_pos (by simpa using ⟨h.1, Nat.lt_succ_of_le h.2⟩)]
  rfl

/-- One of the ascending ranges holds all the numbers from `first` to `last`; the search stops at the first
range above. -/
def spans : List (ℕ × ℕ) → ℕ → ℕ → Bool
  | [], _, _ => false
  | (low, high) :: rest, first, last => low.ble first && (last.ble high || spans rest first last)

theorem inRanges_of_spans {ranges : List (ℕ × ℕ)} {first last n : ℕ} (h : spans ranges first last = true)
    (hfirst : first ≤ n) (hlast : n ≤ last) : inRanges ranges n = true := by
  induction ranges with
  | nil => cases h
  | cons range ranges ih =>
    obtain ⟨low, high⟩ := range
    unfold spans at h
    rw [Bool.and_eq_true, Bool.or_eq_true, Nat.ble_eq, Nat.ble_eq] at h
    unfold inRanges
    rw [if_neg (by omega), Bool.or_eq_true, decide_eq_true_eq]
    exact h.2.imp hlast.trans ih

/-- The ten digits of each script but the first stand together among the letters and digits. -/
theorem spans_of_mem_digitZeros : ∀ start ∈ digitZeros,
    start = 48 ∨ 128 ≤ start ∧ spans alphanumericRanges start (start + 9) = true := by
  have hall : digitZeros.all (fun start => start == 48 ||
      (128 ≤ start && spans alphanumericRanges start (start + 9))) = true := by
    decide +kernel
  simpa using hall

/-- A digit is a character of a word. -/
theorem isWordChar_of_isDigit (h : isDigit c = true) : isWordChar c = true := by
  obtain ⟨n, hvalue⟩ := Option.isSome_iff_exists.1 h
  obtain ⟨start, hstart, hcode, hn⟩ := exists_digitZero hvalue
  rcases spans_of_mem_digitZeros start hstart with rfl | ⟨hlarge, hspans⟩
  · have hall : ∀ n < 10, isWordChar (Char.ofNat (48 + n)) = true := by decide +kernel
    have hc := hall n hn
    rwa [← hcode, Char.ofNat_toNat] at hc
  · unfold isWordChar isAlphanumeric
    rw [Bool.or_eq_true, if_neg (by omega)]
    exact .inr (inRanges_of_spans hspans (by omega) (by omega))

end CodeReview.Text
