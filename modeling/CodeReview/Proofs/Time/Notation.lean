/-
The standard notation of moments. A moment of the calendar whose offset is none, or a second at least,
is read back from its text (`Moment.read?_text`).
-/
import CodeReview.Proofs.Time.Calendar
import CodeReview.Time.Iso
import Mathlib.Tactic

namespace CodeReview

/-! ## Padded numbers -/

section Padded

variable {width n : Nat}

theorem length_padded (hwidth : 0 < width) (h : n < 10 ^ width) : (padded width n).length = width := by
  have hlength : (Nat.toDigits 10 n).length ≤ width :=
    (Nat.length_toDigits_le_iff (by omega) hwidth).2 h
  unfold padded Text.padLeft
  rw [List.length_append, List.length_replicate]
  omega

theorem isDecimal_of_mem_padded {c : Char} (h : c ∈ padded width n) : Moment.isDecimal c = true := by
  unfold padded Text.padLeft at h
  rcases List.mem_append.1 h with hzero | hdigit
  · rw [List.eq_of_mem_replicate hzero]
    decide
  · have := Nat.isDigit_of_mem_toDigits (by omega) (by omega) hdigit
    simpa [Char.isDigit, Moment.isDecimal, Char.le_def] using this

theorem ofDigits_padded (width n : Nat) : Integer.ofDigits (padded width n) = n := by
  have h : Nat.ofDigitChars 10 (padded width n) 0 = n := by
    unfold padded Text.padLeft
    rw [Nat.ofDigitChars_append, Nat.ofDigitChars_replicate_zero, Nat.mul_zero,
      Nat.ofDigitChars_ten_toDigits]
  rwa [Nat.ofDigitChars_eq_foldl] at h

/-- A number that fits its width is read back, and what follows it is left. -/
theorem digits?_padded (hwidth : 0 < width) (h : n < 10 ^ width) (rest : List Char) :
    Moment.digits? width (padded width n ++ rest) = some (n, rest) := by
  have hlength := length_padded hwidth h
  unfold Moment.digits?
  dsimp only
  rw [List.take_left' hlength, List.drop_left' hlength, ofDigits_padded]
  have hall : (padded width n).all Moment.isDecimal = true :=
    List.all_eq_true.2 fun c hc => isDecimal_of_mem_padded hc
  simp [hlength, hall]

/-- A number has a first digit. -/
theorem padded_eq_cons (hwidth : 0 < width) (h : n < 10 ^ width) :
    ∃ c rest, padded width n = c :: rest ∧ Moment.isDecimal c = true := by
  cases hpadded : padded width n with
  | nil =>
    have hlength := length_padded hwidth h
    rw [hpadded] at hlength
    exact absurd hlength (by simp; omega)
  | cons c rest =>
    have hc : c ∈ padded width n := hpadded ▸ List.mem_cons_self ..
    exact ⟨c, rest, rfl, isDecimal_of_mem_padded hc⟩

end Padded

namespace Moment

/-! ## The time of day -/

/-- The fraction of a second, where there is any. -/
def fractionText (micro : Nat) : List Char := if micro = 0 then [] else '.' :: padded 6 micro

/-- Hours, minutes, seconds and the fraction of a second. -/
def clockText (hour minute second micro : Nat) : List Char :=
  padded 2 hour ++ ':' :: (padded 2 minute ++ ':' :: (padded 2 second ++ fractionText micro))

/-- The time with the part that is read next. -/
def ClockTime.withPart (t : ClockTime) (index value : Nat) : ClockTime :=
  match index with
  | 0 => { t with hour := value }
  | 1 => { t with minute := value }
  | _ => { t with second := value }

variable {hour minute second micro : Nat} {after : List Char}

/-- A part that a colon follows is read, and then what is behind the colon. -/
theorem readClock?_colon {parts index value : Nat} {t : ClockTime} {c : Char} {more : List Char}
    (hvalue : value < 100) :
    readClock? after (parts + 1) index true t (padded 2 value ++ ':' :: c :: more) =
      readClock? after parts (index + 1) true (t.withPart index value) (c :: more) := by
  rw [readClock?, digits?_padded (by omega) (by omega)]
  rcases index with _ | _ | index <;> simp [ClockTime.withPart]

theorem readFraction?_padded {t : ClockTime} (h : micro < 1000000) :
    readFraction? t (padded 6 micro) after =
      some { t with micro, complete := (after.dropWhile isDecimal).isEmpty } := by
  have hdigits := digits?_padded (show 0 < 6 by omega) h []
  rw [List.append_nil] at hdigits
  unfold readFraction?
  rw [length_padded (by omega) h]
  simp [hdigits, tenTo]

/-- The last part is read with its fraction, and ends the text if nothing is behind it. -/
theorem readClock?_second (after : List Char) {t : ClockTime} (ht : t.micro = 0) (hsecond : second < 100)
    (hmicro : micro < 1000000) :
    ∃ complete, readClock? after 1 2 true t (padded 2 second ++ fractionText micro) =
      some { t with second, micro, complete } ∧ (after = [] → complete = true) := by
  rw [readClock?, digits?_padded (by omega) (by omega)]
  unfold fractionText
  split
  · next hzero =>
    refine ⟨after.head?.isNone, ?_, ?_⟩
    · simp [hzero, ← ht]
    · rintro rfl
      rfl
  · refine ⟨(after.dropWhile isDecimal).isEmpty, ?_, ?_⟩
    · have hfraction : readFraction? { t with second } (padded 6 micro) after =
          some { t with second, micro, complete := (after.dropWhile isDecimal).isEmpty } :=
        readFraction?_padded hmicro
      obtain ⟨c, rest, hpadded, -⟩ := padded_eq_cons (show 0 < 6 by omega) hmicro
      rw [hpadded] at hfraction ⊢
      simp [hfraction]
    · rintro rfl
      rfl

/-- A time of day is read back. -/
theorem readTimeParts?_clockText (after : List Char) (hhour : hour < 100) (hminute : minute < 100)
    (hsecond : second < 100) (hmicro : micro < 1000000) :
    ∃ complete, readTimeParts? (clockText hour minute second micro) after =
      some ⟨hour, minute, second, micro, complete⟩ ∧ (after = [] → complete = true) := by
  obtain ⟨c, rest, hc, -⟩ := padded_eq_cons (show 0 < 2 by omega) hminute
  obtain ⟨d, rest', hd, -⟩ := padded_eq_cons (show 0 < 2 by omega) hsecond
  obtain ⟨complete, hread, hend⟩ := readClock?_second after
    (t := ⟨hour, minute, 0, 0, true⟩) rfl hsecond hmicro
  refine ⟨complete, ?_, hend⟩
  unfold readTimeParts? clockText
  rw [hc, List.cons_append, readClock?_colon hhour, ← List.cons_append, ← hc, hd, List.cons_append,
    readClock?_colon hminute, ← List.cons_append, ← hd]
  exact hread

/-- Hours and minutes alone are read back. -/
theorem readTimeParts?_hourMinute (hhour : hour < 100) (hminute : minute < 100) :
    readTimeParts? (padded 2 hour ++ ':' :: padded 2 minute) [] =
      some ⟨hour, minute, 0, 0, true⟩ := by
  obtain ⟨c, rest, hc, -⟩ := padded_eq_cons (show 0 < 2 by omega) hminute
  unfold readTimeParts?
  rw [hc, readClock?_colon hhour, ← hc, readClock?, ← List.append_nil (padded 2 minute),
    digits?_padded (by omega) hminute]
  rfl

/-! ## The offset -/

/-- An offset that is none or, forward or back, a second at least, and shorter than a day. -/
def LegibleOffset (offset : Int) : Prop :=
  offset = 0 ∨ (microsPerSecond.natAbs ≤ offset.natAbs ∧ offset.natAbs < microsPerDay.natAbs)

/-- What follows the sign of an offset. -/
def zoneText (micros : Nat) : List Char :=
  let seconds := micros / 1000000
  if seconds % 60 = 0 ∧ micros % 1000000 = 0 then
    padded 2 (seconds / 3600) ++ ':' :: padded 2 (seconds / 60 % 60)
  else clockText (seconds / 3600) (seconds / 60 % 60) (seconds % 60) (micros % 1000000)

theorem offsetText_eq (offset : Int) :
    offsetText offset = (if offset < 0 then '-' else '+') :: zoneText offset.natAbs := by
  unfold offsetText zoneText clockText fractionText
  dsimp only
  by_cases hmicro : offset.natAbs % 1000000 = 0
  · by_cases hsecond : offset.natAbs / 1000000 % 60 = 0 <;> simp [hmicro, hsecond]
  · simp [hmicro]

/-- The time that an offset spans is read back. -/
theorem readTimeParts?_zoneText {micros : Nat} (h : micros < 100 * 3600 * 1000000) :
    ∃ t, readTimeParts? (zoneText micros) [] = some t ∧ t.complete = true ∧
      (t.hour * 60 + t.minute) * 60 + t.second = micros / 1000000 ∧ t.micro = micros % 1000000 := by
  unfold zoneText
  dsimp only
  split
  · next hwhole =>
    refine ⟨_, readTimeParts?_hourMinute (by omega) (by omega), rfl, ?_, hwhole.2.symm⟩
    dsimp only
    omega
  · obtain ⟨complete, hread, hend⟩ := readTimeParts?_clockText []
      (show micros / 1000000 / 3600 < 100 by omega)
      (show micros / 1000000 / 60 % 60 < 100 by omega) (show micros / 1000000 % 60 < 100 by omega)
      (show micros % 1000000 < 1000000 by omega)
    refine ⟨_, hread, hend rfl, ?_, rfl⟩
    dsimp only
    omega

/-- The characters of a time of day. -/
def isClockChar (c : Char) : Bool := isDecimal c || c == ':' || c == '.'

theorem all_padded (width n : Nat) : (padded width n).all isClockChar = true := by
  rw [List.all_eq_true]
  intro c hc
  simp [isClockChar, isDecimal_of_mem_padded hc]

theorem all_clockText (hour minute second micro : Nat) :
    (clockText hour minute second micro).all isClockChar = true := by
  have hcolon : isClockChar ':' = true := by decide
  have hpoint : isClockChar '.' = true := by decide
  have hfraction : (fractionText micro).all isClockChar = true := by
    unfold fractionText
    split
    · rfl
    · rw [List.all_cons, hpoint, all_padded, Bool.and_true]
  unfold clockText
  simp [all_padded, hcolon, hfraction]

theorem all_zoneText (micros : Nat) : (zoneText micros).all isClockChar = true := by
  have hcolon : isClockChar ':' = true := by decide
  unfold zoneText
  dsimp only
  split
  · simp [all_padded, hcolon]
  · exact all_clockText ..

/-- A time of day has no other characters. -/
theorem not_mem_of_all {text : List Char} (h : text.all isClockChar = true) {c : Char}
    (hc : isClockChar c = false) : c ∉ text := by
  intro hmem
  rw [List.all_eq_true.1 h c hmem] at hc
  cases hc

/-- The offset that a sign and a span give. -/
theorem offset_of_span {offset : Int} (h : LegibleOffset offset) {t : ClockTime}
    (hseconds : (t.hour * 60 + t.minute) * 60 + t.second = offset.natAbs / 1000000)
    (hmicro : t.micro = offset.natAbs % 1000000) :
    (let seconds : Int := (t.hour * 60 + t.minute) * 60 + t.second
      if seconds = 0 then 0
      else if offset < 0 then -(seconds * microsPerSecond + t.micro)
      else seconds * microsPerSecond + t.micro) = offset := by
  have hcast : ((t.hour : Int) * 60 + t.minute) * 60 + t.second = (offset.natAbs / 1000000 : Nat) := by
    rw [← hseconds]
    push_cast
    rfl
  dsimp only
  rw [hcast, hmicro]
  unfold LegibleOffset microsPerSecond at h
  unfold microsPerSecond
  split
  · omega
  · split <;> omega

/-- A time of day with an offset is read back. -/
theorem readTime?_text {offset : Int} (hhour : hour < 100) (hminute : minute < 100)
    (hsecond : second < 100) (hmicro : micro < 1000000) (hoffset : LegibleOffset offset) :
    ∃ complete, readTime? (clockText hour minute second micro ++ offsetText offset) =
      some (⟨hour, minute, second, micro, complete⟩, some offset) := by
  have hother {c : Char} (hc : isClockChar c = false) : c ∉ clockText hour minute second micro :=
    not_mem_of_all (all_clockText ..) hc
  -- the time of day ends where the sign of the offset is
  have hsign : ∀ c ∈ clockText hour minute second micro,
      (!(decide (c = '+') || decide (c = '-') || decide (c = 'Z'))) = true := by
    intro c hc
    have hplus : c ≠ '+' := fun h => hother (by decide) (h ▸ hc)
    have hminus : c ≠ '-' := fun h => hother (by decide) (h ▸ hc)
    have hzulu : c ≠ 'Z' := fun h => hother (by decide) (h ▸ hc)
    simp [hplus, hminus, hzulu]
  have hspan : offset.natAbs < 100 * 3600 * 1000000 := by
    unfold LegibleOffset microsPerDay microsPerSecond at hoffset
    omega
  obtain ⟨z, hzone, hcomplete, hseconds, hmicros⟩ := readTimeParts?_zoneText hspan
  obtain ⟨complete, hclock, -⟩ := readTimeParts?_clockText
    (offsetText offset) hhour hminute hsecond hmicro
  refine ⟨complete, ?_⟩
  have hvalue := offset_of_span hoffset hseconds hmicros
  unfold readTime?
  dsimp only
  rw [List.takeWhile_append_of_pos hsign, List.dropWhile_append_of_pos hsign]
  rw [offsetText_eq] at hclock ⊢
  by_cases hnegative : offset < 0
  · simp only [hnegative, if_true] at hclock hvalue ⊢
    simpa [hclock, hzone, hcomplete] using hvalue
  · simp only [hnegative, if_false] at hclock hvalue ⊢
    simpa [hclock, hzone, hcomplete] using hvalue

/-! ## Moments -/

/-- A moment of the calendar with an offset that its text shows. -/
structure Legible (m : Moment) : Prop where
  date : m.date.isValid = true
  hour : m.hour < 24
  minute : m.minute < 60
  second : m.second < 60
  micro : m.micro < 1000000
  offset : ∃ offset, m.offset = some offset ∧ LegibleOffset offset

theorem text_eq {m : Moment} {offset : Int} (h : m.offset = some offset) :
    m.text = padded 4 m.date.year ++ '-' :: (padded 2 m.date.month ++ '-' :: (padded 2 m.date.day ++
      'T' :: (clockText m.hour m.minute m.second m.micro ++ offsetText offset))) := by
  unfold text textWith Date.text clockText fractionText
  rw [h]
  simp

theorem ne_week_of_isDecimal {c : Char} (h : isDecimal c = true) : c ≠ 'W' := by
  rintro rfl
  revert h
  decide

section Date

variable {year month day : Nat}

/-- A date is read back from the front of a text. -/
theorem readDate?_text (hyear : year < 10000) (hmonth : month < 100) (hday : day < 100)
    (rest : List Char) :
    readDate? 10 (padded 4 year ++ '-' :: (padded 2 month ++ '-' :: (padded 2 day ++ rest))) =
      some ⟨year, month, day⟩ := by
  obtain ⟨c, more, hc, hdecimal⟩ := padded_eq_cons (show 0 < 2 by omega) hmonth
  have hmonthRead := digits?_padded (show 0 < 2 by omega) hmonth ('-' :: (padded 2 day ++ rest))
  have hdayRead := digits?_padded (show 0 < 2 by omega) hday rest
  unfold readDate?
  rw [digits?_padded (by omega) hyear]
  rw [hc, List.cons_append] at hmonthRead ⊢
  simp [ne_week_of_isDecimal hdecimal, hmonthRead, hdayRead]

theorem length_dateText (hyear : year < 10000) (hmonth : month < 100) (hday : day < 100) :
    (padded 4 year ++ '-' :: (padded 2 month ++ '-' :: padded 2 day)).length = 10 := by
  simp [length_padded (show 0 < 4 by omega) hyear, length_padded (show 0 < 2 by omega) hmonth,
    length_padded (show 0 < 2 by omega) hday]

/-- What follows a date. -/
theorem drop_dateText (hyear : year < 10000) (hmonth : month < 100) (hday : day < 100)
    (rest : List Char) :
    (padded 4 year ++ '-' :: (padded 2 month ++ '-' :: (padded 2 day ++ rest))).drop 10 = rest := by
  have hsplit : ((padded 4 year ++ '-' :: (padded 2 month ++ '-' :: padded 2 day)) ++ rest).drop 10 =
      rest := List.drop_left' (length_dateText hyear hmonth hday)
  simpa using hsplit

/-- The hyphens tell how long the date is. -/
theorem dateLength?_text (hyear : year < 10000) (hmonth : month < 100) (rest : List Char)
    (hrest : rest ≠ []) :
    dateLength? (padded 4 year ++ '-' :: (padded 2 month ++ rest)) = some 10 := by
  obtain ⟨c, more, hc, hdecimal⟩ := padded_eq_cons (show 0 < 2 by omega) hmonth
  have hlength : (padded 4 year).length = 4 := length_padded (by omega) hyear
  have hmonthLength : (padded 2 month).length = 2 := length_padded (by omega) hmonth
  have hrestLength : 0 < rest.length := List.length_pos_iff.2 hrest
  have hfourth : (padded 4 year ++ '-' :: (c :: more ++ rest))[4]? = some '-' := by
    rw [List.getElem?_append_right (by omega), hlength]
    rfl
  have hfifth : (padded 4 year ++ '-' :: (c :: more ++ rest))[5]? = some c := by
    rw [List.getElem?_append_right (by omega), hlength]
    rfl
  unfold dateLength?
  dsimp only
  rw [if_neg (by simp [hlength, hmonthLength]; omega), hc, if_pos hfourth, if_neg]
  rw [hfifth]
  simpa using ne_week_of_isDecimal hdecimal

end Date

/-- A legible moment is read back from its text. -/
theorem read?_text {m : Moment} (h : m.Legible) : read? m.text = some m := by
  obtain ⟨offset, hoffset, hlegible⟩ := h.offset
  obtain ⟨complete, htime⟩ := readTime?_text (show m.hour < 100 by have := h.hour; omega)
    (show m.minute < 100 by have := h.minute; omega)
    (show m.second < 100 by have := h.second; omega) h.micro hlegible
  have hdate := h.date
  simp only [Date.isValid, Bool.and_eq_true, decide_eq_true_eq] at hdate
  have hday : m.date.day < 100 := by
    have := Date.daysInMonth_le m.date.year m.date.month
    omega
  have hyear : m.date.year < 10000 := by omega
  have hmonth : m.date.month < 100 := by omega
  have hlength := length_dateText hyear hmonth hday
  have hspan : offset.natAbs < microsPerDay.natAbs := by
    unfold LegibleOffset at hlegible
    unfold microsPerDay microsPerSecond at *
    omega
  rw [text_eq hoffset]
  unfold read?
  rw [if_neg (by simp at hlength ⊢; omega), dateLength?_text hyear hmonth _ (by simp)]
  simp only [Option.bind_eq_bind, Option.bind_some, readDate?_text hyear hmonth hday,
    drop_dateText hyear hmonth hday, htime]
  rw [if_pos (by simp [h.date, h.hour, h.minute, h.second, hspan]), ← hoffset]

/-- A text never uses the letter for universal time. -/
theorem zulu_not_mem_text {m : Moment} {offset : Int} (hoffset : m.offset = some offset) :
    'Z' ∉ m.text := by
  have hzulu : isClockChar 'Z' = false := by decide
  have hpadded (width n : Nat) : 'Z' ∉ padded width n := not_mem_of_all (all_padded width n) hzulu
  have hclock : 'Z' ∉ clockText m.hour m.minute m.second m.micro :=
    not_mem_of_all (all_clockText ..) hzulu
  have hzone : 'Z' ∉ offsetText offset := by
    rw [offsetText_eq, List.mem_cons, not_or]
    refine ⟨?_, not_mem_of_all (all_zoneText _) hzulu⟩
    split <;> decide
  rw [text_eq hoffset]
  simp [hpadded, hclock, hzone]

/-- The text of a moment is ASCII. -/
theorem lt_of_mem_text {m : Moment} {c : Char} (hc : c ∈ m.text) : c.toNat < 0x80 := by
  have hpadded (width n : ℕ) : (padded width n).all (fun c => c.toNat < 0x80) = true := by
    refine List.all_eq_true.2 fun c hc => decide_eq_true ?_
    have hdecimal := isDecimal_of_mem_padded hc
    rw [isDecimal, Bool.and_eq_true, decide_eq_true_eq, decide_eq_true_eq] at hdecimal
    exact lt_of_le_of_lt (show c.toNat ≤ 57 from hdecimal.2) (by decide)
  have hoffset (offset : ℤ) : (offsetText offset).all (fun c => c.toNat < 0x80) = true := by
    unfold offsetText
    dsimp only
    split_ifs <;> simp only [List.all_append, List.all_cons, hpadded] <;> rfl
  have htext : m.text.all (fun c => c.toNat < 0x80) = true := by
    unfold text textWith Date.text
    cases m.offset with
    | none => split_ifs <;> simp only [List.all_append, List.all_cons, hpadded] <;> rfl
    | some offset => split_ifs <;> simp only [List.all_append, List.all_cons, hpadded, hoffset] <;> rfl
  exact of_decide_eq_true (List.all_eq_true.1 htext c hc)
end Moment

end CodeReview
