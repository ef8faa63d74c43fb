/-
Dates and the count of days: the date at a place has that place (`ordinal_ofOrdinal`). So a moment that
is a span earlier on its own clock is that span earlier in universal time (`Moment.instant_earlier`).
-/
import CodeReview.Time.Moment
import Mathlib.Tactic

namespace CodeReview

namespace Date

/-! ## Months -/

theorem daysInMonth_le (year month : Nat) : daysInMonth year month ≤ 31 := by
  unfold daysInMonth
  split <;> (try split) <;> omega

theorem sumNat_append (a b : List Nat) : sumNat (a ++ b) = sumNat a + sumNat b := by
  induction a with
  | nil => simp [sumNat]
  | cons n a ih => rw [List.cons_append, sumNat, sumNat, ih, Nat.add_assoc]

theorem daysBeforeMonth_succ (year : Nat) {month : Nat} (h : 1 ≤ month) :
    daysBeforeMonth year (month + 1) = daysBeforeMonth year month + daysInMonth year month := by
  obtain ⟨m, rfl⟩ := Nat.exists_eq_add_of_le' h
  unfold daysBeforeMonth
  rw [Nat.add_sub_cancel, Nat.add_sub_cancel, List.range_succ, List.map_append, sumNat_append]
  rfl

/-- Finding the month of a day leaves the place of the day in the year as it is. -/
theorem daysBeforeMonth_monthOfDay (year fuel : Nat) {month day : Nat} (h : 1 ≤ month) :
    daysBeforeMonth year (monthOfDay year fuel month day).1 + (monthOfDay year fuel month day).2 =
      daysBeforeMonth year month + day := by
  induction fuel generalizing month day with
  | zero => rfl
  | succ fuel ih =>
    rw [monthOfDay]
    split
    · rfl
    · next hlong =>
      rw [ih (Nat.le_succ_of_le h), daysBeforeMonth_succ year h]
      omega

theorem daysBeforeMonth_december (year : Nat) :
    daysBeforeMonth year 12 = if isLeap year then 335 else 334 := by
  unfold daysBeforeMonth
  cases h : isLeap year <;> simp [List.range_succ, sumNat, daysInMonth, h]

/-- The days of a year. -/
theorem daysBeforeMonth_thirteen (year : Nat) :
    daysBeforeMonth year 13 = if isLeap year then 366 else 365 := by
  rw [daysBeforeMonth_succ year (show 1 ≤ 12 by omega), daysBeforeMonth_december]
  show _ + 31 = _
  split_ifs <;> rfl

theorem daysBeforeMonth_mono (year : Nat) : Monotone (daysBeforeMonth year) := by
  refine monotone_nat_of_le_succ fun month => ?_
  cases month with
  | zero => exact Nat.le_refl _
  | succ month =>
    rw [daysBeforeMonth_succ year (Nat.le_add_left 1 month)]
    exact Nat.le_add_right _ _

/-! ## Years -/

/-- The years are counted in spans of 400, 100, 4 and one. -/
theorem daysBeforeYear_eq (c : Nat) {t f o : Nat} (ht : t < 4) (hf : f < 25) (ho : o < 4) :
    daysBeforeYear (c * 400 + t * 100 + f * 4 + o + 1) =
      c * 146097 + t * 36524 + f * 1461 + o * 365 := by
  unfold daysBeforeYear
  dsimp only
  omega

/-- The last of 400 years begins 366 days before their end. -/
theorem daysBeforeYear_fourHundred (cycles : Nat) :
    daysBeforeYear (cycles * 400 + 400) = cycles * 146097 + 145731 := by
  unfold daysBeforeYear
  dsimp only
  omega

theorem monthOfDay_lastOfLeapYear {year : Nat} (h : isLeap year = true) :
    monthOfDay year 11 1 366 = (12, 31) := by
  simp [monthOfDay, daysInMonth, h]

/-- The date at a place is the day of a year that has this place. -/
theorem ofOrdinal_spec {n : Nat} (h : 1 ≤ n) :
    ∃ year day, 1 ≤ year ∧ 1 ≤ day ∧ day ≤ daysBeforeMonth year 13 ∧ daysBeforeYear year + day = n ∧
      ofOrdinal n = ⟨year, (monthOfDay year 11 1 day).1, (monthOfDay year 11 1 day).2⟩ := by
  unfold ofOrdinal
  dsimp only
  generalize hcycles : (n - 1) / 146097 = cycles
  generalize hcenturies : (n - 1) % 146097 / 36524 = centuries
  generalize hfours : (n - 1) % 146097 % 36524 / 1461 = fours
  generalize hones : (n - 1) % 146097 % 36524 % 1461 / 365 = ones
  generalize hdays : (n - 1) % 146097 % 36524 % 1461 % 365 = days
  have hn : n = cycles * 146097 + centuries * 36524 + fours * 1461 + ones * 365 + days + 1 := by
    omega
  split
  · next hlast =>
    have hlast : ones = 4 ∨ centuries = 4 := by simpa using hlast
    have hleap : isLeap (cycles * 400 + centuries * 100 + fours * 4 + ones) = true := by
      simp only [isLeap, Bool.and_eq_true, Bool.or_eq_true, beq_iff_eq, bne_iff_ne]
      omega
    refine ⟨cycles * 400 + centuries * 100 + fours * 4 + ones, 366, by omega, by omega, ?_, ?_, ?_⟩
    · rw [daysBeforeMonth_thirteen, if_pos hleap]
    · rcases hlast with hones | hcenturies
      · -- the last day of four years
        have hspan : centuries < 4 ∧ fours < 24 ∧ days = 0 := by omega
        rw [hones, ← Nat.add_assoc _ 3 1, daysBeforeYear_eq cycles hspan.1 (by omega) (by omega)]
        omega
      · -- the last day of four hundred years
        have hspan : fours = 0 ∧ ones = 0 ∧ days = 0 := by omega
        have hyear : cycles * 400 + centuries * 100 + fours * 4 + ones = cycles * 400 + 400 := by omega
        have hend : n = cycles * 146097 + 146097 := by
          rw [hn, hcenturies, hspan.1, hspan.2.1, hspan.2.2]
        rw [hyear, daysBeforeYear_fourHundred, hend]
    · rw [Nat.add_sub_cancel, monthOfDay_lastOfLeapYear hleap]
  · next hlast =>
    have hlast : ¬ (ones = 4 ∨ centuries = 4) := by simpa using hlast
    refine ⟨cycles * 400 + centuries * 100 + fours * 4 + ones + 1, days + 1, by omega, by omega, ?_, ?_, rfl⟩
    · rw [daysBeforeMonth_thirteen]
      split_ifs <;> omega
    · rw [daysBeforeYear_eq cycles (by omega) (by omega) (by omega)]
      omega

theorem ordinal_ofOrdinal {n : Nat} (h : 1 ≤ n) : (ofOrdinal n).ordinal = n := by
  obtain ⟨year, day, -, -, -, hn, hdate⟩ := ofOrdinal_spec h
  rw [hdate]
  unfold ordinal
  dsimp only
  rw [Nat.add_assoc, daysBeforeMonth_monthOfDay year 11 (Nat.le_refl 1)]
  exact (congrArg _ (Nat.zero_add day)).trans hn

/-- The day of the year of a valid date is one of the year's days. -/
theorem daysBeforeMonth_add_day_le {d : Date} (h : d.isValid = true) :
    daysBeforeMonth d.year d.month + d.day ≤ daysBeforeMonth d.year 13 := by
  simp only [isValid, Bool.and_eq_true, decide_eq_true_eq] at h
  obtain ⟨⟨⟨⟨-, hmonth⟩, hdecember⟩, -⟩, hlength⟩ := h
  refine le_trans (Nat.add_le_add_left hlength _) ?_
  rw [← daysBeforeMonth_succ d.year hmonth]
  exact daysBeforeMonth_mono d.year (Nat.succ_le_succ hdecember)

/-- A valid date has its place in the calendar. -/
theorem ordinal_bounds {d : Date} (h : d.isValid = true) : 1 ≤ d.ordinal ∧ d.ordinal ≤ maxOrdinal := by
  have hend := daysBeforeMonth_add_day_le h
  simp only [isValid, Bool.and_eq_true, decide_eq_true_eq] at h
  obtain ⟨⟨⟨⟨⟨hyear, hlast⟩, hmonth⟩, hdecember⟩, hday⟩, hlength⟩ := h
  have hyearLength := daysBeforeMonth_thirteen d.year
  have hshort : d.year = 9999 → isLeap d.year = false := by
    intro hyear
    rw [hyear]
    rfl
  unfold ordinal daysBeforeYear maxOrdinal
  dsimp only
  refine ⟨by omega, ?_⟩
  by_cases hleap : isLeap d.year
  · have hbefore : d.year ≠ 9999 := fun h => by simp [hshort h] at hleap
    rw [if_pos hleap] at hyearLength
    omega
  · rw [if_neg hleap] at hyearLength
    omega

end Date

/-! ## Moments and their counts of microseconds -/

namespace Moment

theorem clockMicros_ofMicros? {micros : Int} {offset : Option Int} {m : Moment}
    (h : ofMicros? micros offset = some m) : m.clockMicros = micros ∧ m.offset = offset := by
  unfold ofMicros? at h
  dsimp only at h
  split at h
  · cases h
  · next hrange =>
    cases h
    have hdays : 1 ≤ micros / microsPerDay := by
      simp only [Bool.or_eq_true, decide_eq_true_eq] at hrange
      omega
    refine ⟨?_, rfl⟩
    unfold clockMicros timeOfDay
    dsimp only
    rw [Date.ordinal_ofOrdinal (by omega)]
    unfold microsPerDay microsPerSecond at *
    omega

/-- The calendar has a moment at the counts from its first day to the end of its last. -/
theorem isSome_ofMicros?_iff {micros : Int} {offset : Option Int} :
    (ofMicros? micros offset).isSome = true ↔
      microsPerDay ≤ micros ∧ micros < (Date.maxOrdinal + 1) * microsPerDay := by
  have hday : 0 < microsPerDay := by decide
  have hfirst : 1 ≤ micros / microsPerDay ↔ microsPerDay ≤ micros := by
    rw [Int.le_ediv_iff_mul_le hday, one_mul]
  have hlast : micros / microsPerDay < Date.maxOrdinal + 1 ↔
      micros < (Date.maxOrdinal + 1) * microsPerDay := Int.ediv_lt_iff_lt_mul hday
  rw [← hfirst, ← hlast]
  unfold ofMicros?
  dsimp only
  split
  · next hout =>
    simp only [Bool.or_eq_true, decide_eq_true_eq] at hout
    simp only [Option.isSome_none, Bool.false_eq_true, false_iff]
    omega
  · next hin =>
    simp only [Bool.or_eq_true, decide_eq_true_eq] at hin
    simp only [Option.isSome_some, true_iff]
    omega

/-- The clock of a moment is inside the calendar. -/
theorem clockMicros_bounds {m : Moment} (hdate : m.date.isValid = true) (hhour : m.hour < 24)
    (hminute : m.minute < 60) (hsecond : m.second < 60) (hmicro : m.micro < 1000000) :
    microsPerDay ≤ m.clockMicros ∧ m.clockMicros < (Date.maxOrdinal + 1) * microsPerDay := by
  obtain ⟨hfirst, hlast⟩ := Date.ordinal_bounds hdate
  unfold clockMicros timeOfDay microsPerDay microsPerSecond
  omega

/-- A moment earlier on the same clock is as much earlier in universal time. -/
theorem instant_earlier {m m' : Moment} {micros : Int} (h : m.earlier micros = .ok m') :
    m'.instant = m.instant - micros := by
  unfold earlier at h
  split at h
  · next hm =>
    cases h
    obtain ⟨hclock, hoffset⟩ := clockMicros_ofMicros? hm
    unfold instant
    rw [hclock, hoffset]
    omega
  · cases h

end Moment

end CodeReview
