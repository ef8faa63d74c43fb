/-
The number that is reported and the number that gets a name. The rule about numbers reports the first number
that needs a name and the fix gives that one a name (`reportsFirst_of_locate`); a name is no number, so what
is reported then stands further right (`length_le_of_needsName`).
-/
import CodeReview.Proofs.Fix.Rewriting

namespace CodeReview.Fix

open Rule
open Detector (IsFirst IsNumber NeedsName)

variable {line before number rest : List Char} {rule category severity : String} {column : ℕ}

/-! ## The fix -/

/-- A line with a name in the place of a number. -/
def named (before number rest : List Char) : List Char := before ++ "CONSTANT_".toList ++ number ++ rest

theorem suggest?_of_firstNumber? {found : Pattern.Found} (h : Detector.firstNumber? allowed line = some found) :
    suggest? line "no-magic-numbers" =
      some (named found.start.before.reverse found.text found.stop.rest) := by
  have hfixed : nameNumber line = named found.start.before.reverse found.text found.stop.rest := by
    rw [nameNumber_of_firstNumber? h]
    unfold named
    rw [List.append_assoc _ "CONSTANT_".toList]
  have hne : nameNumber line ≠ line := by
    rw [hfixed, (Detector.isFirst_of_firstNumber? h).1.eq]
    unfold named
    intro hsame
    have hlength := congrArg List.length hsame
    simp only [List.length_append] at hlength
    have hname : "CONSTANT_".toList.length = 9 := rfl
    omega
  have hfixer : fixer? "no-magic-numbers" = some nameNumber := rfl
  unfold suggest?
  rw [hfixer]
  dsimp only
  rw [if_neg hne, hfixed]

/-- A name is one run with the number in it. -/
theorem isRun_name (h : Text.IsRun Text.isWordChar before number rest) :
    Text.IsRun Text.isWordChar before ("CONSTANT_".toList ++ number) rest where
  ne_nil := by simp
  chars c hc := by
    have hname : ∀ c ∈ "CONSTANT_".toList, Text.isWordChar c = true :=
      List.all_iff_forall_prop.1 (by decide +kernel)
    exact (List.mem_append.1 hc).elim (hname c) (h.chars c)
  left := h.left
  right := h.right

theorem not_isNumber_name (number : List Char) : ¬IsNumber ("CONSTANT_".toList ++ number) := by
  rintro ⟨⟨_, ⟨⟩, hfirst⟩, -, -⟩
  exact absurd hfirst (by decide)

/-- When the first number has a name, the numbers that still need one stand behind it. -/
theorem length_le_of_needsName {before' number' rest' : List Char}
    (h : IsFirst IsNumber allowed line before number rest)
    (heq : named before number rest = before' ++ number' ++ rest')
    (h' : NeedsName IsNumber allowed before' number' rest') :
    (before ++ "CONSTANT_".toList ++ number).length ≤ before'.length := by
  have hrun' := h'.run
  have hsame : before ++ ("CONSTANT_".toList ++ number) ++ rest = before' ++ number' ++ rest' := by
    rw [← List.append_assoc before]
    exact heq
  rcases (isRun_name h.needsName.run).eq_or_apart hrun' hsame with ⟨-, hname, -⟩ | ⟨gap, -, rfl, -⟩ |
    ⟨gap, hgap, rfl, rfl⟩
  · exact absurd h'.integer (hname ▸ not_isNumber_name number)
  · simp only [List.length_append]
    omega
  · -- the number stood there before, so it would have come first
    have hneeds : NeedsName IsNumber allowed before' number' (gap ++ (number ++ rest)) := by
      refine ⟨⟨hrun'.ne_nil, hrun'.chars, hrun'.left, fun c hc => hrun'.right c ?_⟩, h'.integer, h'.notMem⟩
      rwa [List.head?_append_of_ne_nil _ hgap] at hc ⊢
    have hle := h.first before' number' _ (by rw [h.eq]; simp) hneeds
    have hpos := List.length_pos_of_ne_nil hrun'.ne_nil
    simp only [List.length_append] at hle
    omega

/-! ## The report and the fix -/

/-- What a detector reports in a line, and the fix for it, is about the first number that needs a name: the
column is where it stands and the message names it, the fix gives it a name and leaves the others, and in
the line that comes out nothing is reported or something to the right of the name. -/
structure ReportsFirst (d : Detector) (IsInteger : List Char → Prop) (line : List Char) (column : ℕ)
    (before number rest : List Char) : Prop where
  isFirst : IsFirst IsInteger allowed line before number rest
  column : column = before.length + 1
  message : d.describe line = .ok (Detector.magicMessage number)
  fixed : suggest? line "no-magic-numbers" = some (named before number rest)
  behind : ∃ next, d.locate (named before number rest) = .ok next ∧
    ∀ column ∈ next, (before ++ "CONSTANT_".toList ++ number).length < column

theorem firstNumber?_of_magicNumber? {found : Pattern.Found}
    (h : Detector.magicNumber? allowed line = some found) : Detector.firstNumber? allowed line = some found := by
  unfold Detector.magicNumber? at h
  split at h
  · cases h
  · exact h

/-- A report of a number and the fix for it are about the first number that needs a name. -/
theorem reportsFirst_of_locate
    (h : (Detector.ofMagicNumbers rule category severity allowedNumbers).locate line = .ok (some column)) :
    ∃ before number rest, ReportsFirst (.ofMagicNumbers rule category severity allowedNumbers) IsNumber line
      column before number rest := by
  obtain ⟨found, hfound, hcolumn⟩ := Option.map_eq_some_iff.1 (Except.ok.inj h)
  have hfirst := firstNumber?_of_magicNumber? hfound
  obtain ⟨hisFirst, hposition⟩ := Detector.isFirst_of_firstNumber? hfirst
  refine ⟨_, _, _, hisFirst, ?_, ?_, suggest?_of_firstNumber? hfirst, _, rfl, fun column hnext => ?_⟩
  · rw [← hcolumn, hposition]
  · show Except.ok _ = _
    have hmagic : Detector.magicNumber? (allowedNumbers.map String.toList) line = some found := hfound
    rw [hmagic]
  · obtain ⟨found', hfound', rfl⟩ := Option.map_eq_some_iff.1 hnext
    obtain ⟨hisFirst', hposition'⟩ := Detector.isFirst_of_firstNumber? (firstNumber?_of_magicNumber? hfound')
    rw [hposition']
    exact Nat.lt_succ_of_le (length_le_of_needsName hisFirst hisFirst'.eq hisFirst'.needsName)

/-- The name `x5` and the number 24 are passed over. -/
theorem reportsFirst_of_five :
    (Detector.ofMagicNumbers "no-magic-numbers" "style" "info" allowedNumbers).locate
      "x5 = 24 * 5 + 7;".toList = .ok (some 11) ∧
    ∃ before number rest, ReportsFirst (.ofMagicNumbers "no-magic-numbers" "style" "info" allowedNumbers)
      IsNumber "x5 = 24 * 5 + 7;".toList 11 before number rest :=
  ⟨by decide +kernel, reportsFirst_of_locate (by decide +kernel)⟩

/-- The decimal integers above one of which every digit is of a given kind and the first is not zero. -/
structure IsDecimal (isDigit : Char → Bool) (number : List Char) : Prop where
  first : ∀ c ∈ number.head?, Text.digitValue? c ≠ some 0
  digits : ∀ c ∈ number, isDigit c = true
  two_le : 2 ≤ Detector.valueOf number

/-- The digits of a number are not of one kind, of any script or of ASCII: an Arabic three in front of a five
is passed over, and behind a one it is taken as a digit. -/
theorem not_reportsFirst_isDecimal :
    ((Detector.ofMagicNumbers "no-magic-numbers" "style" "info" allowedNumbers).locate ['\u0663', ' ', '5'] =
        .ok (some 3) ∧
      ¬∃ before number rest, ReportsFirst (.ofMagicNumbers "no-magic-numbers" "style" "info" allowedNumbers)
        (IsDecimal Text.isDigit) ['\u0663', ' ', '5'] 3 before number rest) ∧
    (Detector.ofMagicNumbers "no-magic-numbers" "style" "info" allowedNumbers).locate ['1', '\u0663'] =
        .ok (some 1) ∧
      ¬∃ before number rest, ReportsFirst (.ofMagicNumbers "no-magic-numbers" "style" "info" allowedNumbers)
        (IsDecimal Char.isDigit) ['1', '\u0663'] 1 before number rest := by
  have hword : Text.isWordChar '\u0663' = true := by decide +kernel
  refine ⟨⟨by decide +kernel, ?_⟩, by decide +kernel, ?_⟩
  · rintro ⟨before, number, rest, hreports⟩
    have hthree : NeedsName (IsDecimal Text.isDigit) allowed [] ['\u0663'] [' ', '5'] := by
      refine ⟨⟨by decide, ?_, nofun, ?_⟩, ⟨?_, ?_, by decide⟩, by decide⟩
      · simpa using hword
      · rintro _ ⟨⟩
        decide +kernel
      · rintro _ ⟨⟩
        decide
      · simpa using (by decide : Text.isDigit '\u0663' = true)
    have hle := hreports.isFirst.first [] ['\u0663'] [' ', '5'] rfl hthree
    have hcolumn := hreports.column
    rw [List.length_nil] at hle
    omega
  · rintro ⟨before, number, rest, hreports⟩
    obtain ⟨hsplit, ⟨hrun, hdecimal, -⟩, -⟩ := hreports.isFirst
    have hcolumn := hreports.column
    obtain rfl : before = [] := List.length_eq_zero_iff.1 (by omega)
    obtain ⟨x, digits, rfl⟩ := List.exists_cons_of_ne_nil hrun.ne_nil
    obtain ⟨rfl, htail⟩ := List.cons.inj hsplit
    cases digits with
    | nil =>
      obtain rfl : ['\u0663'] = rest := htail
      exact Bool.false_ne_true ((hrun.right '\u0663' rfl).symm.trans hword)
    | cons y digits =>
      obtain ⟨rfl, -⟩ := List.cons.inj htail
      exact absurd (hdecimal.digits '\u0663' (by simp)) (by decide)

end CodeReview.Fix
