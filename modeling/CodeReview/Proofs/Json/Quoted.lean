/-
Texts as JSON strings. A text is read back from between its quotes if the two halves of a surrogate pair never
stand side by side in it (`stringBody_flatMap`): written as two units they are read as the character of the pair.
-/
import CodeReview.Json.Reader
import CodeReview.Json.Writer
import CodeReview.Proofs.Text.CodePoint
import Mathlib.Tactic

namespace CodeReview.Json

open Text (codePoint ofCodePoint IsFirstHalf IsSecondHalf)

/-! ## Code units -/

theorem hexValue?_digitChar {n : ℕ} (h : n < 16) : hexValue? n.digitChar = some n := by
  interval_cases n <;> rfl

/-- The four digits of a code unit. -/
theorem hexPadded_four {n : ℕ} (h : n < 0x10000) : Text.hexPadded 4 n =
    [(n / 4096).digitChar, (n / 256 % 16).digitChar, (n / 16 % 16).digitChar, (n % 16).digitChar] := by
  have hmore {k : ℕ} (hk : 16 ≤ k) : Nat.toDigits 16 k = Nat.toDigits 16 (k / 16) ++ [(k % 16).digitChar] :=
    Nat.toDigits_of_base_le (by omega) hk
  have hone {k : ℕ} (hk : k < 16) : Nat.toDigits 16 k = [k.digitChar] := Nat.toDigits_of_lt_base hk
  have hzero {k : ℕ} (hk : k = 0) : k.digitChar = '0' := Nat.digitChar_eq_zero.2 hk
  have h256 : n / 16 / 16 = n / 256 := Nat.div_div_eq_div_mul n 16 16
  have h4096 : n / 256 / 16 = n / 4096 := Nat.div_div_eq_div_mul n 256 16
  unfold Text.hexPadded Text.hexDigits Text.padLeft
  rcases lt_or_ge n 16 with hn | hn
  · rw [hone hn, hzero (k := n / 4096) (by omega), hzero (k := n / 256 % 16) (by omega),
      hzero (k := n / 16 % 16) (by omega), Nat.mod_eq_of_lt hn]
    rfl
  rw [hmore hn]
  rcases lt_or_ge (n / 16) 16 with hn | hn
  · rw [hone hn, hzero (k := n / 4096) (by omega), hzero (k := n / 256 % 16) (by omega),
      Nat.mod_eq_of_lt hn]
    rfl
  rw [hmore hn, h256]
  rcases lt_or_ge (n / 256) 16 with hn | hn
  · rw [hone hn, hzero (k := n / 4096) (by omega), Nat.mod_eq_of_lt hn]
    rfl
  rw [hmore hn, h4096, hone (by omega)]
  rfl

theorem codeUnit?_hexPadded {n : ℕ} (h : n < 0x10000) (rest : List Char) :
    codeUnit? (Text.hexPadded 4 n ++ rest) = some (n, rest) := by
  have hsum : n / 4096 * 4096 + n / 256 % 16 * 256 + n / 16 % 16 * 16 + n % 16 = n := by omega
  rw [hexPadded_four h]
  simp only [List.cons_append, List.nil_append, codeUnit?]
  rw [hexValue?_digitChar (show n / 4096 < 16 by omega),
    hexValue?_digitChar (show n / 256 % 16 < 16 by omega),
    hexValue?_digitChar (show n / 16 % 16 < 16 by omega),
    hexValue?_digitChar (show n % 16 < 16 by omega)]
  simp only [hsum]

theorem unitChar_pair {high low : ℕ} (hhigh : 0xD800 ≤ high ∧ high < 0xDC00)
    (hlow : 0xDC00 ≤ low ∧ low < 0xE000) (rest : List Char) :
    unitChar high (writeUnit low ++ rest) =
      (Char.ofNat (0x10000 + (high - 0xD800) * 1024 + (low - 0xDC00)), rest) := by
  have hpair : (0xD800 ≤ high && high < 0xDC00) = true := by simpa using hhigh
  have hlowBool : (0xDC00 ≤ low && low < 0xE000) = true := by simpa using hlow
  unfold unitChar writeUnit
  rw [if_pos hpair, List.cons_append, List.cons_append]
  simp only [codeUnit?_hexPadded (show low < 0x10000 by omega), if_pos hlowBool]

/-- A character beyond the first plane is read from its two code units. -/
theorem unitChar_split {c : Char} (h : 0x10000 ≤ codePoint c) (rest : List Char) :
    unitChar (0xD800 + (codePoint c - 0x10000) / 1024)
      (writeUnit (0xDC00 + (codePoint c - 0x10000) % 1024) ++ rest) = (c, rest) := by
  have hvalid : c.toNat < 0xD800 ∨ (0xDFFF < c.toNat ∧ c.toNat < 0x110000) := c.valid
  have hchar := Text.codePoint_of_large h
  rw [hchar] at h ⊢
  rw [unitChar_pair (by omega) (by omega)]
  have hsum : 0x10000 + (0xD800 + (c.toNat - 0x10000) / 1024 - 0xD800) * 1024 +
      (0xDC00 + (c.toNat - 0x10000) % 1024 - 0xDC00) = c.toNat := by omega
  rw [hsum, Char.ofNat_toNat]

/-- The second half of a surrogate pair is not the first thing that a text spells. -/
def KeepsApart (text : List Char) : Prop :=
  ∀ more low after, text = '\\' :: 'u' :: more → codeUnit? more = some (low, after) →
    ¬ (0xDC00 ≤ low ∧ low < 0xE000)

theorem keepsApart_cons {c : Char} (hc : c ≠ '\\') (rest : List Char) : KeepsApart (c :: rest) :=
  fun _ _ _ h => absurd (List.cons.inj h).1 hc

theorem keepsApart_writeUnit {n : ℕ} (hn : n < 0x10000) (h : ¬ (0xDC00 ≤ n ∧ n < 0xE000))
    (rest : List Char) : KeepsApart (writeUnit n ++ rest) := by
  intro more low after htext hread
  have hmore : Text.hexPadded 4 n ++ rest = more := (List.cons.inj (List.cons.inj htext).2).2
  rw [← hmore, codeUnit?_hexPadded hn] at hread
  rw [← (Prod.mk.inj (Option.some.inj hread)).1]
  exact h

/-- Any unit of the first plane is read as what it stands for, the first half of a pair only if the second does
not follow. -/
theorem unitChar_of_keepsApart {c : Char} {rest : List Char} (hrest : IsFirstHalf c → KeepsApart rest) :
    unitChar (codePoint c) rest = (c, rest) := by
  unfold unitChar
  rw [Text.ofCodePoint_codePoint]
  split_ifs with hfirst
  · have hapart := hrest (by simpa [IsFirstHalf] using hfirst)
    split
    · next more =>
      split
      · next low after hread =>
        rw [if_neg (by simpa using hapart more low after rfl hread)]
      · rfl
    · rfl
  · rfl

/-! ## Strings -/

/-- What begins with the text of a character begins with a second half only if that is the character. -/
theorem keepsApart_writeChar {c : Char} (h : ¬ IsSecondHalf c) (rest : List Char) :
    KeepsApart (writeChar c ++ rest) := by
  have hvalid : c.toNat < 0xD800 ∨ (0xDFFF < c.toNat ∧ c.toNat < 0x110000) := c.valid
  unfold writeChar
  split
  case h_8 hslash _ _ _ _ _ =>
    dsimp only
    split_ifs with hplain hplane
    · exact keepsApart_cons hslash rest
    · exact keepsApart_writeUnit hplane h rest
    · -- of two units the first is a first half
      have hchar := Text.codePoint_of_large (Nat.not_lt.1 hplane)
      rw [List.append_assoc]
      exact keepsApart_writeUnit (by omega) (by omega) _
  all_goals exact fun _ _ _ h => absurd (List.cons.inj (List.cons.inj h).2).1 (by decide)

/-- A written character is read as the next one. -/
theorem stringBody_writeChar (fuel : ℕ) {c : Char} {rest : List Char}
    (hrest : IsFirstHalf c → KeepsApart rest) :
    stringBody (fuel + 1) (writeChar c ++ rest) =
      (stringBody fuel rest).map fun (body, rest) => (c :: body, rest) := by
  have hunit {n : ℕ} (hn : n < 0x10000) {after after' : List Char}
      (hread : unitChar n after = (c, after')) :
      stringBody (fuel + 1) (writeUnit n ++ after) =
        (stringBody fuel after').map fun (body, rest) => (c :: body, rest) := by
    show stringBody (fuel + 1) ('\\' :: 'u' :: (Text.hexPadded 4 n ++ after)) = _
    rw [stringBody]
    simp only [codeUnit?_hexPadded hn, hread]
  unfold writeChar
  split
  case h_8 hquote hslash _ _ _ _ _ =>
    dsimp only
    split_ifs with hplain hplane
    · -- neither a quote nor the beginning of an escape
      rw [Bool.and_eq_true, decide_eq_true_eq, decide_eq_true_eq] at hplain
      have hread : ¬ (c = '\\' || c.toNat < 0x20) = true := by
        rw [Bool.or_eq_true, decide_eq_true_eq, decide_eq_true_eq]
        rintro (rfl | hlow)
        · exact hslash rfl
        · rcases Text.codePoint_cases c with ⟨hchar, -⟩ | ⟨-, hchar⟩ <;> omega
      rw [List.cons_append, List.nil_append, stringBody, if_neg hread]
      · exact hquote
      · exact fun _ h _ => hslash h
      · exact fun _ _ h _ => hslash h
    · exact hunit hplane (unitChar_of_keepsApart hrest)
    · have hvalid : c.toNat < 0xD800 ∨ (0xDFFF < c.toNat ∧ c.toNat < 0x110000) := c.valid
      have hchar := Text.codePoint_of_large (Nat.not_lt.1 hplane)
      rw [List.append_assoc]
      exact hunit (by omega) (unitChar_split (by omega) rest)
  all_goals rfl

/-- A text is read back from between its quotes. -/
theorem stringBody_flatMap {fuel : ℕ} {text : List Char} (hfuel : text.length < fuel)
    (hunsplit : Text.Unsplit text) (rest : List Char) :
    stringBody fuel (text.flatMap writeChar ++ '"' :: rest) = .ok (text, rest) := by
  induction text generalizing fuel with
  | nil =>
    obtain ⟨fuel, rfl⟩ := Nat.exists_eq_succ_of_ne_zero (Nat.ne_of_gt hfuel)
    rfl
  | cons c text ih =>
    rw [List.length_cons] at hfuel
    obtain ⟨fuel, rfl⟩ := Nat.exists_eq_succ_of_ne_zero (Nat.ne_of_gt (Nat.zero_lt_of_lt hfuel))
    have hapart : IsFirstHalf c → KeepsApart (text.flatMap writeChar ++ '"' :: rest) := by
      intro hfirst
      cases text with
      | nil => exact keepsApart_cons (by decide) rest
      | cons d text =>
        have hsecond : ¬ IsSecondHalf d := fun h => (List.isChain_cons_cons.1 hunsplit).1 ⟨hfirst, h⟩
        rw [List.flatMap_cons, List.append_assoc]
        exact keepsApart_writeChar hsecond _
    rw [List.flatMap_cons, List.append_assoc, stringBody_writeChar fuel hapart,
      ih (by omega) (List.IsChain.tail hunsplit)]
    rfl

/-- The two halves of a surrogate pair are written like the character of the pair. -/
theorem writeString_halves : writeString Text.halves.toList = writeString "😀".toList := by decide +kernel

end CodeReview.Json
