/-
The UTF-8 encoding: bytes that encode a text are read back as the text (`decode_encode`).
-/
import CodeReview.Text.Utf8
import Mathlib.Tactic

namespace CodeReview.Text

/-! ## Bytes as numbers -/

theorem toNat_byte {n : Nat} (h : n < 256) : (UInt8.ofNat n).toNat = n := by
  rw [UInt8.toNat_ofNat', Nat.mod_eq_of_lt h]

theorem isContinuation_iff (b : UInt8) :
    isContinuation b = true ↔ 0x80 ≤ b.toNat ∧ b.toNat < 0xC0 := by
  unfold isContinuation
  rw [Bool.and_eq_true, decide_eq_true_eq, decide_eq_true_eq, UInt8.le_iff_toNat_le,
    UInt8.lt_iff_toNat_lt]
  rfl

theorem fitsSecond_iff (lead second : UInt8) :
    fitsSecond lead second = true ↔
      (0x80 ≤ second.toNat ∧ second.toNat < 0xC0) ∧ (lead.toNat = 0xE0 → 0xA0 ≤ second.toNat) ∧
        (lead.toNat = 0xED → second.toNat < 0xA0) ∧ (lead.toNat = 0xF0 → 0x90 ≤ second.toNat) ∧
        (lead.toNat = 0xF4 → second.toNat < 0x90) := by
  unfold fitsSecond
  simp only [Bool.and_eq_true, isContinuation_iff, Bool.or_eq_true, bne_iff_ne, ne_eq,
    decide_eq_true_eq, UInt8.le_iff_toNat_le, UInt8.lt_iff_toNat_lt, ← UInt8.toNat_inj,
    ← imp_iff_not_or, and_assoc]
  rfl

/-- No byte of a character that takes more than one is a start that nothing follows. -/
theorem isLead_of_bounds {a : UInt8} (ha : 0xC2 ≤ a.toNat) (hlast : a.toNat < 0xF5) :
    ¬ a < 0x80 ∧ (decide (a < 0xC2) || decide (0xF5 ≤ a)) = false := by
  rw [Bool.or_eq_false_iff, decide_eq_false_iff_not, decide_eq_false_iff_not, UInt8.lt_iff_toNat_lt,
    UInt8.lt_iff_toNat_lt, UInt8.le_iff_toNat_le]
  show ¬ a.toNat < 0x80 ∧ ¬ a.toNat < 0xC2 ∧ ¬ 0xF5 ≤ a.toNat
  omega

/-! ## One character -/

section Character

variable {a b c d : UInt8} (rest : Bytes)

theorem decodeChar?_one (ha : a.toNat < 0x80) :
    decodeChar? (a :: rest) = .ok (Char.ofNat a.toNat, 1) := by
  have hlow : a < 0x80 := UInt8.lt_iff_toNat_lt.2 ha
  simp only [decodeChar?, if_pos hlow]

theorem decodeChar?_two (ha : 0xC2 ≤ a.toNat) (hlast : a.toNat < 0xE0) (hb : fitsSecond a b = true) :
    decodeChar? (a :: b :: rest) =
      .ok (Char.ofNat ((a.toNat - 0xC0) * 64 + (b.toNat - 0x80)), 2) := by
  obtain ⟨hlow, hlead⟩ := isLead_of_bounds ha (by omega)
  have htwo : a < 0xE0 := UInt8.lt_iff_toNat_lt.2 hlast
  simp only [decodeChar?, if_neg hlow, hlead, hb, Bool.not_true, Bool.false_eq_true, if_false,
    if_pos htwo]

theorem decodeChar?_three (ha : 0xE0 ≤ a.toNat) (hlast : a.toNat < 0xF0)
    (hb : fitsSecond a b = true) (hc : isContinuation c = true) :
    decodeChar? (a :: b :: c :: rest) =
      .ok (Char.ofNat ((a.toNat - 0xE0) * 4096 + (b.toNat - 0x80) * 64 + (c.toNat - 0x80)), 3) := by
  obtain ⟨hlow, hlead⟩ := isLead_of_bounds (show 0xC2 ≤ a.toNat by omega) (by omega)
  have htwo : ¬ a < 0xE0 := fun h => absurd (UInt8.lt_iff_toNat_lt.1 h) (not_lt.2 ha)
  have hthree : a < 0xF0 := UInt8.lt_iff_toNat_lt.2 hlast
  simp only [decodeChar?, if_neg hlow, hlead, hb, hc, Bool.not_true, Bool.false_eq_true, if_false,
    if_neg htwo, if_pos hthree]

theorem decodeChar?_four (ha : 0xF0 ≤ a.toNat) (hlast : a.toNat < 0xF5)
    (hb : fitsSecond a b = true) (hc : isContinuation c = true) (hd : isContinuation d = true) :
    decodeChar? (a :: b :: c :: d :: rest) =
      .ok (Char.ofNat ((a.toNat - 0xF0) * 262144 + (b.toNat - 0x80) * 4096 + (c.toNat - 0x80) * 64 +
        (d.toNat - 0x80)), 4) := by
  obtain ⟨hlow, hlead⟩ := isLead_of_bounds (show 0xC2 ≤ a.toNat by omega) hlast
  have htwo : ¬ a < 0xE0 := fun h => absurd (UInt8.lt_iff_toNat_lt.1 h) (not_lt.2 (by
    show 0xE0 ≤ a.toNat
    omega))
  have hthree : ¬ a < 0xF0 := fun h => absurd (UInt8.lt_iff_toNat_lt.1 h) (not_lt.2 ha)
  simp only [decodeChar?, if_neg hlow, hlead, hb, hc, hd, Bool.not_true, Bool.false_eq_true, if_false,
    if_neg htwo, if_neg hthree]

end Character

/-- The bytes of a character are read back as the character. -/
theorem decodeChar?_encodeChar (c : Char) (rest : Bytes) :
    decodeChar? (encodeChar c ++ rest) = .ok (c, (encodeChar c).length) := by
  have hvalid : c.toNat < 0xD800 ∨ (0xDFFF < c.toNat ∧ c.toNat < 0x110000) := c.valid
  have hchar {n : Nat} (h : n = c.toNat) : Char.ofNat n = c := by rw [h, Char.ofNat_toNat]
  have hcontinues (n : Nat) : isContinuation (UInt8.ofNat (0x80 + n % 64)) = true := by
    rw [isContinuation_iff, toNat_byte (by omega)]
    omega
  have hlast (n : Nat) := toNat_byte (show 0x80 + n % 64 < 256 by omega)
  unfold encodeChar
  dsimp only
  split_ifs with hone htwo hthree
  · have hlead := toNat_byte (show c.toNat < 256 by omega)
    refine (decodeChar?_one rest (by rwa [hlead])).trans ?_
    rw [hchar hlead]
    rfl
  · have hlead := toNat_byte (show 0xC0 + c.toNat / 64 < 256 by omega)
    refine (decodeChar?_two rest (by omega) (by omega) ?_).trans ?_
    · rw [fitsSecond_iff, hlead, hlast]
      omega
    · rw [hchar (by rw [hlead, hlast]; omega)]
      rfl
  · have hlead := toNat_byte (show 0xE0 + c.toNat / 4096 < 256 by omega)
    refine (decodeChar?_three rest (by omega) (by omega) ?_ (hcontinues _)).trans ?_
    · rw [fitsSecond_iff, hlead, hlast]
      omega
    · rw [hchar (by rw [hlead, hlast, hlast]; omega)]
      rfl
  · have hlead := toNat_byte (show 0xF0 + c.toNat / 262144 < 256 by omega)
    refine (decodeChar?_four rest (by omega) (by omega) ?_ (hcontinues _) (hcontinues _)).trans ?_
    · rw [fitsSecond_iff, hlead, hlast]
      omega
    · rw [hchar (by rw [hlead, hlast, hlast, hlast]; omega)]
      rfl

/-! ## Texts -/

/-- The bytes of a character that has been read are passed over. -/
theorem decodeFrom_skip (position : Nat) (bytes rest : Bytes) :
    decodeFrom position bytes.length (bytes ++ rest) = decodeFrom (position + bytes.length) 0 rest := by
  induction bytes generalizing position with
  | nil => rfl
  | cons b bytes ih =>
    rw [List.cons_append, List.length_cons, decodeFrom, ih]
    congr 1
    omega

theorem decodeFrom_encode (position : Nat) (text : List Char) :
    decodeFrom position 0 (encode text) = .ok text := by
  induction text generalizing position with
  | nil => rfl
  | cons c text ih =>
    have hencode : encode (c :: text) = encodeChar c ++ encode text := List.flatMap_cons
    have hread := decodeChar?_encodeChar c (encode text)
    obtain ⟨b, more, hbytes⟩ : ∃ b more, encodeChar c = b :: more := by
      unfold encodeChar
      dsimp only
      split_ifs <;> exact ⟨_, _, rfl⟩
    rw [hbytes, List.cons_append] at hread
    rw [hencode, hbytes, List.cons_append, decodeFrom, hread]
    dsimp only
    rw [List.length_cons, Nat.add_sub_cancel, decodeFrom_skip, ih]
    rfl

/-- A text is read back from its bytes. -/
theorem decode_encode (text : List Char) : decode (encode text) = .ok text := decodeFrom_encode 0 text

/-- A text of ASCII characters takes a byte for each. -/
theorem encodedSize_of_forall {text : List Char} (h : ∀ c ∈ text, c.toNat < 0x80) :
    encodedSize text = text.length := by
  induction text with
  | nil => rfl
  | cons c text ih =>
    obtain ⟨hc, htext⟩ := List.forall_mem_cons.1 h
    have hbytes : encodeChar c = [UInt8.ofNat c.toNat] := if_pos hc
    have hencode : encode (c :: text) = UInt8.ofNat c.toNat :: encode text := by
      rw [encode, List.flatMap_cons, hbytes]
      rfl
    rw [encodedSize, hencode, List.length_cons, List.length_cons, ← ih htext, encodedSize]

end CodeReview.Text
