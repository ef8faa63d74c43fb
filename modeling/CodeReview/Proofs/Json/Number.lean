/-
Numbers as JSON texts. An integer of no more digits than are read, and any floating-point number, is
read back from its text (`number?_text`, `scalar_writeFloat`).
-/
import CodeReview.Json.Writer
import CodeReview.Proofs.Number.Digits
import CodeReview.Proofs.Number.Shortest

namespace CodeReview.Json

open Double (IsMagnitude Spells)

/-! ## The parts of a number -/

/-- Nothing follows that would belong to a number: a written value ends the text or its line. -/
def Ends (rest : List Char) : Prop := ∀ c ∈ rest.head?, c = ',' ∨ c = '\n'

section Parts

variable {whole fraction digits rest : List Char}

theorem span_isDecimal (hdigits : ∀ c ∈ digits, isDecimal c = true)
    (hrest : ∀ c ∈ rest.head?, isDecimal c = false) :
    (digits ++ rest).span isDecimal = (digits, rest) := by
  rw [List.span_eq_takeWhile_dropWhile, List.takeWhile_append_of_pos hdigits,
    List.dropWhile_append_of_pos hdigits]
  cases rest with
  | nil => rw [List.takeWhile_nil, List.append_nil, List.dropWhile_nil]
  | cons c rest =>
    have hc : isDecimal c = false := hrest c rfl
    rw [List.takeWhile_cons_of_neg (by rw [hc]; exact Bool.false_ne_true), List.append_nil,
      List.dropWhile_cons_of_neg (by rw [hc]; exact Bool.false_ne_true)]

theorem Ends.not_isDecimal (h : Ends rest) : ∀ c ∈ rest.head?, isDecimal c = false := by
  intro c hc
  rcases h c hc with rfl | rfl <;> rfl

theorem integerPart?_zero (rest : List Char) : integerPart? ('0' :: rest) = some (['0'], rest) := rfl

theorem integerPart?_cons {c : Char} {more : List Char} (hc : c ≠ '0')
    (hdigits : ∀ d ∈ c :: more, isDecimal d = true) (hrest : ∀ c ∈ rest.head?, isDecimal c = false) :
    integerPart? (c :: more ++ rest) = some (c :: more, rest) := by
  rw [List.cons_append, integerPart?.eq_def]
  split
  · next h => exact absurd (List.cons.inj h).1 hc
  · next d tail _ h =>
    obtain ⟨rfl, rfl⟩ := List.cons.inj h
    rw [if_pos (hdigits c (List.mem_cons_self ..)), ← List.cons_append, span_isDecimal hdigits hrest]
  · next h => cases h

theorem fractionPart_cons (hne : fraction ≠ []) (hdigits : ∀ c ∈ fraction, isDecimal c = true)
    (hrest : ∀ c ∈ rest.head?, isDecimal c = false) :
    fractionPart ('.' :: (fraction ++ rest)) = (fraction, rest) := by
  rw [fractionPart, span_isDecimal hdigits hrest]
  simp [hne]

theorem fractionPart_eq (hrest : ∀ c ∈ rest.head?, c ≠ '.') : fractionPart rest = ([], rest) := by
  rw [fractionPart.eq_def]
  split
  · next more => exact absurd rfl (hrest '.' rfl)
  · rfl

theorem Ends.fractionPart_eq (h : Ends rest) : fractionPart rest = ([], rest) :=
  Json.fractionPart_eq fun c hc => by rcases h c hc with rfl | rfl <;> decide

theorem Ends.exponentPart?_eq (h : Ends rest) : exponentPart? rest = none := by
  cases rest with
  | nil => rfl
  | cons c rest =>
    rcases h c rfl with rfl | rfl <;> rfl

/-- The exponent of a written number is read. -/
theorem exponentPart?_exponentText (layout : Double.Layout) (exponent : ℤ) (hrest : Ends rest) :
    exponentPart? ('e' :: (Double.exponentText layout exponent ++ rest)) = some (exponent, rest) := by
  have hdigits : ∀ c ∈ Text.padLeft layout.exponentWidth '0' (Nat.toDigits 10 exponent.natAbs),
      isDecimal c = true := by
    intro c hc
    rcases List.mem_append.1 hc with hc | hc
    · exact Integer.isDecimal_of_mem_zeros hc
    · exact Integer.isDecimal_of_mem_toDigits hc
  have hvalue : Integer.ofDigits
      (Text.padLeft layout.exponentWidth '0' (Nat.toDigits 10 exponent.natAbs)) =
      exponent.natAbs := by
    unfold Text.padLeft
    rw [Integer.ofDigits_append, Integer.ofDigits_replicate_zero, Integer.ofDigits_toDigits,
      Nat.mul_zero, Nat.zero_add]
  have hne : Text.padLeft layout.exponentWidth '0' (Nat.toDigits 10 exponent.natAbs) ≠ [] :=
    List.append_ne_nil_of_right_ne_nil _ Nat.toDigits_ne_nil
  have hspan := span_isDecimal hdigits hrest.not_isDecimal
  unfold exponentPart? Double.exponentText
  generalize Text.padLeft layout.exponentWidth '0' (Nat.toDigits 10 exponent.natAbs) = padded at *
  have hempty : padded.isEmpty = false := by rwa [List.isEmpty_eq_false_iff]
  split_ifs with hneg
  · have hsigned : -(exponent.natAbs : ℤ) = exponent := by omega
    simp only [List.cons_append, hspan, hempty, hvalue, Bool.false_eq_true, if_false, hsigned]
    rfl
  · have hsigned : (exponent.natAbs : ℤ) = exponent := by omega
    simp only [List.cons_append, hspan, hempty, hvalue, Bool.false_eq_true, if_false, hsigned]
    rfl

end Parts

/-! ## Integers -/

/-- The integer has no more digits than are read. -/
def IsShort (i : ℤ) : Prop := i.natAbs < 10 ^ Integer.maxDigits

theorem IsShort.obstacle?_eq_none {i : ℤ} (h : IsShort i) (depth : ℕ) : obstacle? depth (.int i) = none := by
  rw [obstacle?, Double.tenTo_eq]
  exact if_neg (Nat.not_le.2 h)

theorem number?_toDigits {n : ℕ} (negative : Bool) {rest : List Char}
    (hshort : n < 10 ^ Integer.maxDigits) (hrest : Ends rest) :
    number? negative (Nat.toDigits 10 n ++ rest) =
      .ok (.int (if negative then -(n : ℤ) else n), rest) := by
  have hwhole : integerPart? (Nat.toDigits 10 n ++ rest) = some (Nat.toDigits 10 n, rest) := by
    rcases Nat.eq_zero_or_pos n with rfl | hn
    · rfl
    · obtain ⟨c, more, hdigits, hc⟩ := Integer.toDigits_eq_cons hn
      rw [hdigits]
      refine integerPart?_cons hc (fun d hd => ?_) hrest.not_isDecimal
      exact Integer.isDecimal_of_mem_toDigits (hdigits ▸ hd)
  have hlength : ¬ Integer.maxDigits < (Nat.toDigits 10 n).length :=
    not_lt.2 ((Nat.length_toDigits_le_iff (by omega) (by decide)).2 hshort)
  unfold number?
  rw [hwhole]
  simp only [hrest.fractionPart_eq, hrest.exponentPart?_eq, List.isEmpty_nil, Bool.not_true,
    Bool.false_eq_true, if_false, if_neg hlength, Integer.ofDigits_toDigits]

/-! ## Floating-point numbers -/

section Float

variable {m : ℚ} {digits : ℕ} {place : ℤ} {negative : Bool} {rest : List Char}

/-- Digits that are rounded to a magnitude are read as it, with its sign. -/
theorem floatOf_of_spells (hm : IsMagnitude m) {spelled : List Char}
    (hspelled : ∀ c ∈ spelled, isDecimal c = true) (h : Spells m (Integer.ofDigits spelled, place)) :
    floatOf negative spelled place = .finite (if negative then -m else m) := by
  obtain ⟨hlow, hhigh⟩ := Double.place_bounds hm h (Integer.ofDigits_lt hspelled)
  obtain ⟨hpos, hround⟩ := h
  have hbound : max (-((spelled.length : ℤ) + 400)) (min ((spelled.length : ℤ) + 400) place) = place := by
    omega
  have hvalue : (0 : ℚ) < Integer.ofDigits spelled * 10 ^ place :=
    mul_pos (by exact_mod_cast hpos) (Double.ten_zpow_pos place)
  have hread : Double.ofDecimal (Integer.ofDigits spelled) place = .finite m := by
    rw [Double.ofDecimal_eq]
    exact Double.round_of_roundMagnitude hm hvalue hround
  unfold floatOf
  rw [if_neg (Nat.pos_iff_ne_zero.1 hpos)]
  dsimp only
  rw [hbound, hread]
  cases negative with
  | true => exact Double.neg_finite hm
  | false => rfl

section Layout

variable {whole fraction text after : List Char}

/-- Digits with a point are read; those of the fraction count down from the point. -/
theorem number?_point (hm : IsMagnitude m)
    (hwhole : integerPart? text = some (whole, '.' :: (fraction ++ rest))) (hne : fraction ≠ [])
    (hdigits : ∀ c ∈ whole ++ fraction, isDecimal c = true) (hrest : Ends rest)
    (h : Spells m (Integer.ofDigits (whole ++ fraction), -fraction.length)) :
    number? negative text = .ok (.float (.finite (if negative then -m else m)), rest) := by
  have hfraction := fractionPart_cons hne (fun c hc => hdigits c (List.mem_append_right _ hc))
    hrest.not_isDecimal
  have hempty : (!fraction.isEmpty) = true := by simpa using hne
  unfold number?
  rw [hwhole]
  dsimp only
  rw [hfraction]
  dsimp only
  rw [hrest.exponentPart?_eq, if_pos hempty, floatOf_of_spells hm hdigits h]

/-- Digits with an exponent are read, with a fraction or without one. -/
theorem number?_exponent (hm : IsMagnitude m) (layout : Double.Layout) {exponent : ℤ}
    (hwhole : integerPart? text = some (whole, after))
    (hfraction : fractionPart after =
      (fraction, 'e' :: (Double.exponentText layout exponent ++ rest)))
    (hdigits : ∀ c ∈ whole ++ fraction, isDecimal c = true) (hrest : Ends rest)
    (h : Spells m (Integer.ofDigits (whole ++ fraction), exponent - fraction.length)) :
    number? negative text = .ok (.float (.finite (if negative then -m else m)), rest) := by
  unfold number?
  rw [hwhole]
  dsimp only
  rw [hfraction]
  dsimp only
  rw [exponentPart?_exponentText layout exponent hrest]
  dsimp only
  rw [floatOf_of_spells hm hdigits h]

theorem spells_shift (h : Spells m (digits, place)) (n : ℕ) :
    Spells m (digits * 10 ^ n, place - n) := by
  obtain ⟨hpos, hround⟩ := h
  refine ⟨Nat.mul_pos hpos (Nat.pow_pos (by omega)), ?_⟩
  have hvalue : ((digits * 10 ^ n : ℕ) : ℚ) * 10 ^ (place - n) = digits * 10 ^ place := by
    rw [Nat.cast_mul, Nat.cast_pow, Nat.cast_ofNat, mul_assoc, mul_comm ((10 : ℚ) ^ n),
      ← Double.ten_zpow_add_natCast, sub_add_cancel]
  exact hvalue ▸ hround

/-! ### The four layouts of some digits that do not begin with a zero -/

section Digits

variable {c : Char} {more : List Char} {n : ℕ}

theorem not_isDecimal_point (tail : List Char) :
    ∀ c ∈ ('.' :: tail).head?, isDecimal c = false := by
  rintro _ ⟨⟩
  rfl

/-- Zeros follow, and then `.0`. -/
theorem number?_zeros (hm : IsMagnitude m) (hc : c ≠ '0')
    (hdecimal : ∀ d ∈ c :: more, isDecimal d = true) (hrest : Ends rest)
    (h : Spells m (Integer.ofDigits (c :: more), n)) :
    number? negative ((c :: more) ++ List.replicate n '0' ++ ['.', '0'] ++ rest) =
      .ok (.float (.finite (if negative then -m else m)), rest) := by
  have hwhole : ∀ d ∈ c :: (more ++ List.replicate n '0'), isDecimal d = true := by
    intro d hd
    rcases List.mem_append.1 (show d ∈ (c :: more) ++ List.replicate n '0' from hd) with hd | hd
    · exact hdecimal d hd
    · exact Integer.isDecimal_of_mem_zeros hd
  have hread := integerPart?_cons hc hwhole (not_isDecimal_point ('0' :: rest))
  have htext : (c :: more) ++ List.replicate n '0' ++ ['.', '0'] ++ rest =
      c :: (more ++ List.replicate n '0') ++ '.' :: '0' :: rest := by simp
  rw [← htext] at hread
  have hread : integerPart? _ = some (_, '.' :: (['0'] ++ rest)) := hread
  refine number?_point hm hread (by simp) ?_ hrest ?_
  · intro d hd
    rcases List.mem_append.1 hd with hd | hd
    · exact hwhole d hd
    · rw [List.mem_singleton.1 hd]
      rfl
  · have hzeros : c :: (more ++ List.replicate n '0') ++ ['0'] =
        (c :: more) ++ List.replicate (n + 1) '0' := by
      rw [List.replicate_succ']
      simp
    have hshift := spells_shift h (n + 1)
    rw [hzeros, Integer.ofDigits_append, Integer.ofDigits_replicate_zero, List.length_replicate,
      Nat.add_zero, Nat.mul_comm]
    rwa [show (n : ℤ) - (n + 1 : ℕ) = -(['0'].length : ℤ) by simp] at hshift

/-- The point stands between the digits. -/
theorem number?_cut (hm : IsMagnitude m) (hc : c ≠ '0')
    (hdecimal : ∀ d ∈ c :: more, isDecimal d = true) (hrest : Ends rest) (hn : n < more.length)
    (h : Spells m (Integer.ofDigits (c :: more), n + 1 - ((c :: more).length : ℤ))) :
    number? negative ((c :: more).take (n + 1) ++ '.' :: (c :: more).drop (n + 1) ++ rest) =
      .ok (.float (.finite (if negative then -m else m)), rest) := by
  have hdigits : ∀ d ∈ c :: more.take n, isDecimal d = true :=
    fun d hd => hdecimal d (List.mem_of_mem_take (i := n + 1) hd)
  have hread := integerPart?_cons hc hdigits (not_isDecimal_point (more.drop n ++ rest))
  have htext : (c :: more).take (n + 1) ++ '.' :: (c :: more).drop (n + 1) ++ rest =
      c :: more.take n ++ '.' :: (more.drop n ++ rest) := by simp
  rw [htext]
  have hjoin : (c :: more.take n) ++ more.drop n = c :: more := by simp
  refine number?_point hm hread ?_ ?_ hrest ?_
  · rw [ne_eq, List.drop_eq_nil_iff]
    omega
  · rwa [hjoin]
  · rw [hjoin, List.length_drop]
    rwa [show (n : ℤ) + 1 - ((c :: more).length : ℤ) = -((more.length - n : ℕ) : ℤ) by
      rw [List.length_cons]
      omega] at h

/-- The digits stand behind `0.` and zeros. -/
theorem number?_small (hm : IsMagnitude m) (hdecimal : ∀ d ∈ c :: more, isDecimal d = true)
    (hrest : Ends rest)
    (h : Spells m (Integer.ofDigits (c :: more), -(n + (c :: more).length : ℤ))) :
    number? negative ('0' :: '.' :: List.replicate n '0' ++ (c :: more) ++ rest) =
      .ok (.float (.finite (if negative then -m else m)), rest) := by
  have htext : '0' :: '.' :: List.replicate n '0' ++ (c :: more) ++ rest =
      '0' :: '.' :: ((List.replicate n '0' ++ (c :: more)) ++ rest) := by simp
  rw [htext]
  have hzeros : '0' :: (List.replicate n '0' ++ (c :: more)) =
      List.replicate (n + 1) '0' ++ (c :: more) := by
    rw [List.replicate_succ]
    simp
  refine number?_point hm (integerPart?_zero _) (by simp) ?_ hrest ?_
  · intro d hd
    rw [List.singleton_append, hzeros] at hd
    rcases List.mem_append.1 hd with hd | hd
    · exact Integer.isDecimal_of_mem_zeros hd
    · exact hdecimal d hd
  · rw [List.singleton_append, hzeros, Integer.ofDigits_append, Integer.ofDigits_replicate_zero,
      Nat.mul_zero, Nat.zero_add, List.length_append, List.length_replicate, Nat.cast_add]
    exact h

/-- An exponent follows. -/
theorem number?_scientific (hm : IsMagnitude m) (hc : c ≠ '0')
    (hdecimal : ∀ d ∈ c :: more, isDecimal d = true) (hrest : Ends rest) (layout : Double.Layout)
    {exponent : ℤ} (h : Spells m (Integer.ofDigits (c :: more), exponent - more.length)) :
    number? negative ((match c :: more with
      | [d] => d :: 'e' :: Double.exponentText layout exponent
      | d :: fraction => d :: '.' :: fraction ++ 'e' :: Double.exponentText layout exponent
      | [] => []) ++ rest) = .ok (.float (.finite (if negative then -m else m)), rest) := by
  have hfirst : ∀ d ∈ [c], isDecimal d = true :=
    fun d hd => hdecimal d (List.mem_singleton.1 hd ▸ List.mem_cons_self ..)
  have hletter (tail : List Char) : ∀ d ∈ ('e' :: tail).head?, isDecimal d = false := by
    rintro _ ⟨⟩
    rfl
  cases more with
  | nil =>
    have hread := integerPart?_cons hc hfirst (hletter (Double.exponentText layout exponent ++ rest))
    have hfraction : fractionPart ('e' :: (Double.exponentText layout exponent ++ rest)) = ([], _) :=
      fractionPart_eq (by rintro _ ⟨⟩; decide)
    exact number?_exponent hm layout hread hfraction (by simpa using hfirst) hrest h
  | cons d more =>
    have htext : c :: '.' :: (d :: more) ++ 'e' :: Double.exponentText layout exponent ++ rest =
        [c] ++ '.' :: ((d :: more) ++ 'e' :: (Double.exponentText layout exponent ++ rest)) := by simp
    dsimp only
    rw [htext]
    refine number?_exponent hm layout (integerPart?_cons hc hfirst (not_isDecimal_point _))
      (fractionPart_cons (by simp) (fun e he => hdecimal e (List.mem_cons_of_mem _ he)) (hletter _))
      (by simpa using hdecimal) hrest h

end Digits

/-- A laid-out decimal is read as the magnitude that it spells. -/
theorem number?_layOut (hm : IsMagnitude m) (h : Spells m (digits, place)) (hrest : Ends rest) :
    number? negative (Double.layOut Double.plainLayout digits place ++ rest) =
      .ok (.float (.finite (if negative then -m else m)), rest) := by
  have hdecimal : ∀ c ∈ Nat.toDigits 10 digits, isDecimal c = true :=
    fun c hc => Integer.isDecimal_of_mem_toDigits hc
  obtain ⟨c, more, hdigits, hc⟩ := Integer.toDigits_eq_cons (show 0 < digits from h.1)
  rw [← Integer.ofDigits_toDigits digits] at h
  unfold Double.layOut
  dsimp only
  rw [hdigits] at h hdecimal ⊢
  have hlength : ((c :: more).length : ℤ) = more.length + 1 := by simp
  by_cases hplain : Double.plainLayout.lowest ≤ place + ((c :: more).length : ℤ) - 1 ∧
      place + ((c :: more).length : ℤ) - 1 ≤ Double.plainLayout.highest
  · rw [if_pos (by simpa using hplain)]
    by_cases hwhole : 0 ≤ place
    · rw [if_pos hwhole]
      exact number?_zeros hm hc hdecimal hrest (by rwa [Int.toNat_of_nonneg hwhole])
    rw [if_neg hwhole]
    by_cases hlead : 0 ≤ place + ((c :: more).length : ℤ) - 1
    · rw [if_pos hlead]
      refine number?_cut hm hc hdecimal hrest (by omega) ?_
      rwa [show ((place + ((c :: more).length : ℤ) - 1).toNat : ℤ) + 1 - ((c :: more).length : ℤ) =
        place by omega]
    · rw [if_neg hlead]
      refine number?_small hm hdecimal hrest ?_
      rwa [show -((((-(place + ((c :: more).length : ℤ) - 1)).toNat - 1 : ℕ) : ℤ) +
        ((c :: more).length : ℤ)) = place by omega]
  · rw [if_neg (by simpa using hplain)]
    refine number?_scientific hm hc hdecimal hrest Double.plainLayout ?_
    rwa [show place + ((c :: more).length : ℤ) - 1 - (more.length : ℤ) = place by omega]

end Layout

end Float

/-! ## Any number -/

theorem isDecimal_of_number? {negative : Bool} {text : List Char} {read : Json × List Char}
    (h : number? negative text = .ok read) : ∃ c more, text = c :: more ∧ isDecimal c = true := by
  cases text with
  | nil => cases h
  | cons c more =>
    refine ⟨c, more, rfl, ?_⟩
    by_contra hc
    have hnone : integerPart? (c :: more) = none := by
      rw [integerPart?.eq_def]
      split
      · next heq => exact absurd ((List.cons.inj heq).1 ▸ rfl) hc
      · next d tail _ heq =>
        obtain ⟨rfl, rfl⟩ := List.cons.inj heq
        rw [if_neg hc]
      · rfl
    rw [number?, hnone] at h
    cases h

/-- What is read as a number is none of the names. -/
theorem scalar_of_number? {text : List Char} {read : Json × List Char}
    (h : number? false text = .ok read) : scalar text = .ok read := by
  obtain ⟨c, more, rfl, hc⟩ := isDecimal_of_number? h
  have hname : Text.dropFront? "Infinity".toList (c :: more) = none := by
    refine if_neg ?_
    rintro rfl
    cases hc
  rw [scalar.eq_def]
  split
  case h_6 =>
    rw [hname]
    exact h
  all_goals
    next heq =>
    rw [(List.cons.inj heq).1] at hc
    cases hc

theorem scalar_of_number?_minus {text : List Char} {read : Json × List Char}
    (h : number? true text = .ok read) : scalar ('-' :: text) = .ok read := by
  obtain ⟨c, more, rfl, hc⟩ := isDecimal_of_number? h
  have hname : Text.dropFront? "Infinity".toList (c :: more) = none := by
    refine if_neg ?_
    rintro rfl
    cases hc
  rw [scalar, hname]
  exact h

/-- An integer that is not too long is read back. -/
theorem scalar_integer {i : ℤ} {rest : List Char} (hshort : IsShort i) (hrest : Ends rest) :
    scalar (Integer.text i ++ rest) = .ok (.int i, rest) := by
  have hread (negative : Bool) := number?_toDigits negative hshort hrest
  unfold Integer.text
  split_ifs with hneg
  · have hsigned : -(i.natAbs : ℤ) = i := by omega
    refine scalar_of_number?_minus ((hread true).trans ?_)
    rw [if_pos rfl, hsigned]
  · have hsigned : (i.natAbs : ℤ) = i := by omega
    refine scalar_of_number? ((hread false).trans ?_)
    rw [if_neg Bool.false_ne_true, hsigned]

theorem number?_zero (negative : Bool) {rest : List Char} (hrest : Ends rest) :
    number? negative ('0' :: '.' :: '0' :: rest) = .ok (.float (.zero negative), rest) := by
  have hfraction : fractionPart ('.' :: (['0'] ++ rest)) = (['0'], rest) :=
    fractionPart_cons (by simp) (by simp [isDecimal]) hrest.not_isDecimal
  unfold number?
  rw [integerPart?_zero]
  dsimp only
  rw [show '.' :: '0' :: rest = '.' :: (['0'] ++ rest) from rfl, hfraction]
  dsimp only
  rw [hrest.exponentPart?_eq]
  rfl

/-- A floating-point number is read back from its text. -/
theorem scalar_writeFloat {x : Double} {rest : List Char} (hx : x.IsProper) (hrest : Ends rest) :
    scalar (writeFloat x ++ rest) = .ok (.float x, rest) := by
  cases x with
  | negZero => exact scalar_of_number?_minus (number?_zero true hrest)
  | infinity negative =>
    cases negative with
    | true => rfl
    | false => rfl
  | nan => rfl
  | finite value =>
    show scalar (Double.finiteText value ++ rest) = _
    unfold Double.finiteText
    rcases hx.cases with rfl | hm | ⟨hneg, hm⟩
    · rw [if_pos rfl]
      exact scalar_of_number? (number?_zero false hrest)
    · have hneg : ¬ value < 0 := not_lt.2 hm.pos.le
      have hspells := Double.spells_shortestDigits hm
      rw [if_neg hm.pos.ne', if_neg hneg]
      cases hdecimal : Double.shortestDigits value with
      | mk digits place =>
        rw [hdecimal] at hspells
        dsimp only
        rw [if_neg hneg]
        exact scalar_of_number? (number?_layOut hm hspells hrest)
    · have hspells := Double.spells_shortestDigits hm
      rw [if_neg hneg.ne, if_pos hneg]
      cases hdecimal : Double.shortestDigits (-value) with
      | mk digits place =>
        rw [hdecimal] at hspells
        have hread : number? true (Double.layOut Double.plainLayout digits place ++ rest) = _ :=
          number?_layOut hm hspells hrest
        rw [if_pos rfl, neg_neg] at hread
        dsimp only
        rw [if_pos hneg]
        exact scalar_of_number?_minus hread

end CodeReview.Json
