/-
The order of dates. Dates of the calendar follow one another by year, month and day, and so do their
places in the count of days (`Date.ordinal_lt_of_before`) and their texts, whose digits are padded
(`Date.text_lt_of_before`): sorting the texts sorts the days. The day of a moment in universal time is the
one date of the calendar at the place of its instant (`Moment.utcDate_eq_ok_iff`).
-/
import CodeReview.Proofs.Number.Digits
import CodeReview.Proofs.Time.Notation
import Mathlib.Data.String.Basic

namespace CodeReview

/-! ## Digits -/

/-- Of two numbers with as many digits the smaller one's digits come first, whatever follows them. -/
theorem append_lt_append_of_ofDigits_lt : ∀ {digits digits' rest rest' : List Char},
    digits.length = digits'.length → (∀ c ∈ digits, Json.isDecimal c = true) →
    (∀ c ∈ digits', Json.isDecimal c = true) → Integer.ofDigits digits < Integer.ofDigits digits' →
    digits ++ rest < digits' ++ rest'
  | [], [], _, _, _, _, _, h => absurd h (lt_irrefl _)
  | c :: digits, c' :: digits', rest, rest', hlength, hdigits, hdigits', h => by
    obtain ⟨-, hmore⟩ := List.forall_mem_cons.1 hdigits
    obtain ⟨hc', hmore'⟩ := List.forall_mem_cons.1 hdigits'
    have hsame : digits.length = digits'.length := Nat.succ.inj hlength
    have hsplit (c : Char) (more : List Char) : Integer.ofDigits (c :: more) =
        10 ^ more.length * (c.toNat - 48) + Integer.ofDigits more := by
      rw [← List.singleton_append, Integer.ofDigits_append]
      simp [Integer.ofDigits]
    rw [List.cons_append, List.cons_append, List.cons_lt_cons_iff]
    rcases lt_trichotomy c c' with hlt | rfl | hgt
    · exact .inl hlt
    · rw [hsplit, hsplit, hsame, Nat.add_lt_add_iff_left] at h
      exact .inr ⟨rfl, append_lt_append_of_ofDigits_lt hsame hmore hmore' h⟩
    · -- a greater first digit outweighs all that follow it
      exfalso
      have hzero : 48 ≤ c'.toNat := by
        have hbounds : '0' ≤ c' ∧ c' ≤ '9' := by simpa [Json.isDecimal] using hc'
        exact hbounds.1
      have hfirst : c'.toNat - 48 + 1 ≤ c.toNat - 48 := by
        have : c'.toNat < c.toNat := hgt
        omega
      have hrest := Integer.ofDigits_lt hmore'
      have hweight := Nat.mul_le_mul_left (10 ^ digits'.length) hfirst
      rw [hsplit, hsplit, hsame] at h
      rw [Nat.mul_succ] at hweight
      omega

/-- Padded numbers that fit their width are ordered like the numbers. -/
theorem padded_append_lt {width m n : ℕ} (hwidth : 0 < width) (hmn : m < n) (hn : n < 10 ^ width)
    (rest rest' : List Char) : padded width m ++ rest < padded width n ++ rest' := by
  refine append_lt_append_of_ofDigits_lt ?_ (fun c hc => isDecimal_of_mem_padded hc)
    (fun c hc => isDecimal_of_mem_padded hc) ?_
  · rw [length_padded hwidth (hmn.trans hn), length_padded hwidth hn]
  · rwa [ofDigits_padded, ofDigits_padded]

namespace Date

/-! ## Years -/

theorem isLeap_iff (year : ℕ) : isLeap year = true ↔ 4 ∣ year ∧ (¬ 100 ∣ year ∨ 400 ∣ year) := by
  simp [isLeap, Nat.dvd_iff_mod_eq_zero]

theorem daysBeforeYear_succ {year : ℕ} (h : 1 ≤ year) :
    daysBeforeYear (year + 1) = daysBeforeYear year + daysBeforeMonth year 13 := by
  obtain ⟨y, rfl⟩ := Nat.exists_eq_add_of_le' h
  have hcenturies : y / 100 ≤ y / 4 := by omega
  rw [daysBeforeMonth_thirteen]
  show (y + 1) * 365 + (y + 1) / 4 - (y + 1) / 100 + (y + 1) / 400 =
    y * 365 + y / 4 - y / 100 + y / 400 + _
  rw [Nat.succ_div, Nat.succ_div, Nat.succ_div]
  simp only [isLeap_iff]
  split_ifs <;> omega

theorem daysBeforeYear_mono : Monotone daysBeforeYear := by
  refine monotone_nat_of_le_succ fun year => ?_
  cases year with
  | zero => exact Nat.le_refl _
  | succ year =>
    rw [daysBeforeYear_succ (Nat.le_add_left 1 year)]
    exact Nat.le_add_right _ _

/-! ## Dates one after the other -/

/-- The one date comes before the other, by year, month and day. -/
def Before (d d' : Date) : Prop :=
  d.year < d'.year ∨ d.year = d'.year ∧ (d.month < d'.month ∨ d.month = d'.month ∧ d.day < d'.day)

section Order

variable {d d' : Date}

theorem before_or_eq_or_before (d d' : Date) : d.Before d' ∨ d = d' ∨ d'.Before d := by
  unfold Before
  rcases d with ⟨year, month, day⟩
  rcases d' with ⟨year', month', day'⟩
  simp only [mk.injEq]
  omega

theorem ordinal_lt_of_before (hd : d.isValid = true) (hd' : d'.isValid = true) (h : d.Before d') :
    d.ordinal < d'.ordinal := by
  have hlast := daysBeforeMonth_add_day_le hd
  have hfirst : 1 ≤ d'.day ∧ 1 ≤ d.year ∧ 1 ≤ d.month ∧ d.day ≤ daysInMonth d.year d.month := by
    simp only [isValid, Bool.and_eq_true, decide_eq_true_eq] at hd hd'
    omega
  unfold ordinal
  rcases h with hyear | ⟨hyear, hmonth | ⟨hmonth, hday⟩⟩
  · have hnext := daysBeforeYear_mono (Nat.succ_le_of_lt hyear)
    rw [Nat.succ_eq_add_one, daysBeforeYear_succ hfirst.2.1] at hnext
    omega
  · have hnext := daysBeforeMonth_mono d.year (Nat.succ_le_of_lt hmonth)
    rw [Nat.succ_eq_add_one, daysBeforeMonth_succ d.year hfirst.2.2.1] at hnext
    rw [← hyear]
    omega
  · rw [← hyear, ← hmonth]
    omega

/-- A date of the calendar is known by its place. -/
theorem eq_of_ordinal_eq (hd : d.isValid = true) (hd' : d'.isValid = true)
    (h : d.ordinal = d'.ordinal) : d = d' := by
  rcases before_or_eq_or_before d d' with hbefore | heq | hbefore
  · exact absurd h (ordinal_lt_of_before hd hd' hbefore).ne
  · exact heq
  · exact absurd h (ordinal_lt_of_before hd' hd hbefore).ne'

theorem text_lt_of_before (hd' : d'.isValid = true) (h : d.Before d') : d.text < d'.text := by
  have hlength := daysInMonth_le d'.year d'.month
  have hwide : d'.year < 10 ^ 4 ∧ d'.month < 10 ^ 2 ∧ d'.day < 10 ^ 2 := by
    simp only [isValid, Bool.and_eq_true, decide_eq_true_eq] at hd'
    omega
  unfold text
  rw [List.append_assoc, List.append_assoc]
  rcases h with hyear | ⟨hyear, hmonth | ⟨hmonth, hday⟩⟩
  · exact padded_append_lt (by omega) hyear hwide.1 _ _
  · rw [hyear]
    refine List.append_left_lt (List.cons_lt_cons_iff.2 (.inr ⟨rfl, ?_⟩))
    exact padded_append_lt (by omega) hmonth hwide.2.1 _ _
  · rw [hyear, hmonth]
    refine List.append_left_lt (List.cons_lt_cons_iff.2 (.inr ⟨rfl, ?_⟩))
    refine List.append_left_lt (List.cons_lt_cons_iff.2 (.inr ⟨rfl, ?_⟩))
    simpa using padded_append_lt (by omega) hday hwide.2.2 [] []

/-- The texts of dates of the calendar are in the order of their places. -/
theorem text_lt_text_iff (hd : d.isValid = true) (hd' : d'.isValid = true) :
    d.text < d'.text ↔ d.ordinal < d'.ordinal := by
  rcases before_or_eq_or_before d d' with hbefore | rfl | hbefore
  · exact iff_of_true (text_lt_of_before hd' hbefore) (ordinal_lt_of_before hd hd' hbefore)
  · exact iff_of_false (lt_irrefl _) (lt_irrefl _)
  · exact iff_of_false (text_lt_of_before hd hbefore).asymm
      (ordinal_lt_of_before hd' hd hbefore).asymm

/-- A date of the calendar is known by its text. -/
theorem eq_of_text_eq (hd : d.isValid = true) (hd' : d'.isValid = true) (h : d.text = d'.text) :
    d = d' := by
  rcases before_or_eq_or_before d d' with hbefore | heq | hbefore
  · exact absurd h (text_lt_of_before hd' hbefore).ne
  · exact heq
  · exact absurd h (text_lt_of_before hd hbefore).ne'

end Order

/-! ## The date at a place -/

/-- Of a day of the year, looked for from a month on, the month and the day of the month are found. -/
theorem isValid_monthOfDay {year : ℕ} (hyear : 1 ≤ year) (hlast : year ≤ 9999) (fuel : ℕ)
    {month day : ℕ} (hmonth : 1 ≤ month) (hfuel : month + fuel = 12) (hday : 1 ≤ day)
    (hend : daysBeforeMonth year month + day ≤ daysBeforeMonth year 13) :
    isValid ⟨year, (monthOfDay year fuel month day).1, (monthOfDay year fuel month day).2⟩ = true := by
  induction fuel generalizing month day with
  | zero =>
    obtain rfl : month = 12 := by omega
    rw [daysBeforeMonth_succ year hmonth] at hend
    show isValid ⟨year, 12, day⟩ = true
    simp only [isValid, Bool.and_eq_true, decide_eq_true_eq]
    omega
  | succ fuel ih =>
    rw [monthOfDay]
    split
    · next hfits =>
      simp only [isValid, Bool.and_eq_true, decide_eq_true_eq]
      omega
    · next hlong =>
      have hnext := daysBeforeMonth_succ year hmonth
      exact ih (by omega) (by omega) (by omega) (by omega)

theorem isValid_ofOrdinal {n : ℕ} (hfirst : 1 ≤ n) (hlast : n ≤ maxOrdinal) :
    (ofOrdinal n).isValid = true := by
  obtain ⟨year, day, hyear, hday, hend, hn, hdate⟩ := ofOrdinal_spec hfirst
  have hyears : year ≤ 9999 := by
    unfold maxOrdinal at hlast
    unfold daysBeforeYear at hn
    dsimp only at hn
    omega
  rw [hdate]
  exact isValid_monthOfDay hyear hyears 11 (le_refl 1) rfl hday ((Nat.zero_add day).trans_le hend)

end Date

/-- The day of a moment in universal time is the date of the calendar at the place of its instant. -/
theorem Moment.utcDate_eq_ok_iff {m : Moment} {d : Date} :
    m.utcDate = .ok d ↔ d.isValid = true ∧ (d.ordinal : ℤ) = m.instant / microsPerDay := by
  unfold utcDate ofMicros?
  dsimp only
  split
  · next m' hfound =>
    split at hfound
    · cases hfound
    · next hinside =>
      simp only [Bool.or_eq_true, decide_eq_true_eq, not_or, not_lt] at hinside
      cases hfound
      have hvalid := Date.isValid_ofOrdinal (n := (m.instant / microsPerDay).toNat) (by omega) (by omega)
      have hplace := Date.ordinal_ofOrdinal (n := (m.instant / microsPerDay).toNat) (by omega)
      constructor
      · intro h
        obtain rfl := Except.ok.inj h
        exact ⟨hvalid, by rw [hplace]; omega⟩
      · rintro ⟨hd, hordinal⟩
        exact congrArg Except.ok (Date.eq_of_ordinal_eq hvalid hd (hplace.trans (by omega)))
  · next hnone =>
    split at hnone
    · next hout =>
      simp only [Bool.or_eq_true, decide_eq_true_eq] at hout
      refine iff_of_false (fun h => nomatch h) ?_
      rintro ⟨hd, hordinal⟩
      have hbounds := Date.ordinal_bounds hd
      omega
    · cases hnone

end CodeReview
