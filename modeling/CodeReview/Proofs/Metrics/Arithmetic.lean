/-
The metrics over any arithmetic. What is counted in a text does not depend on the numbers that the metrics
are computed with, so the computation is written once for numbers of any kind (`Arithmetic.ofText`). Over
floating-point numbers it is the one that runs (`Arithmetic.double_ofText`); over the real numbers, with
any functions for the logarithms of what is positive, it always gives metrics, and these are on their
scales (`Arithmetic.exact_ofText`).
-/
import CodeReview.Proofs.Metrics.Score
import Mathlib.Algebra.Order.Archimedean.Real.Basic

namespace CodeReview

open Result

/-- The number lies on the scale from 0 to 100. -/
def IsOnScale (n : ℤ) : Prop := 0 ≤ n ∧ n ≤ 100

instance (n : ℤ) : Decidable (IsOnScale n) := inferInstanceAs (Decidable (_ ∧ _))

/-- The metrics are on their scales, and no more lines hold code than the text has. -/
structure Metrics.IsBounded (m : Metrics) (text : List Char) : Prop where
  complexity : 1 ≤ m.complexity
  maintainability : IsOnScale m.maintainability
  duplication : IsOnScale m.duplication
  qualityScore : IsOnScale m.qualityScore
  linesOfCode : 0 ≤ m.linesOfCode ∧ m.linesOfCode ≤ (Text.lines text).length

namespace Measure

/-- Numbers to compute metrics with. A division by zero and the logarithm of a number that is not positive
are faults, and so may be integers that are too large. -/
structure Arithmetic (R : Type) where
  ofInt : ℤ → Except Fault R
  /-- The number with these decimal digits, the last of which stands for ten to the exponent. -/
  decimal : ℕ → ℤ → R
  add : R → R → R
  sub : R → R → R
  mul : R → R → R
  lt : R → R → Bool
  /-- The quotient of two integers. -/
  divide : ℤ → ℕ → Except Fault R
  log : R → Except Fault R
  logOfInt : ℤ → Except Fault R
  log2OfInt : ℤ → Except Fault R
  floor : R → Except Fault ℤ

namespace Arithmetic

def divisionByZero : Fault := .invalid "division by zero"

/-! ## The computation -/

section Computation

variable {R : Type} (A : Arithmetic R)

def roundHalfUp (x : R) : Except Fault ℤ := A.floor (A.add x (A.decimal 5 (-1)))

def clamp (x : R) : R :=
  let x := if A.lt (A.decimal 0 0) x then x else A.decimal 0 0
  if A.lt x (A.decimal 100 0) then x else A.decimal 100 0

def volume (vocabulary : ℕ) : Except Fault R := do
  let information ← A.log2OfInt (vocabulary + 1)
  return A.mul (← A.ofInt vocabulary) information

def logVolume (volume : R) : Except Fault R :=
  if A.lt (A.decimal 0 0) volume then A.log volume else .ok (A.decimal 0 0)

def maintainabilityIndex (vocabulary lines : ℕ) (complexity : ℤ) : Except Fault R := do
  let byVolume := A.sub (A.decimal 171 0)
    (A.mul (A.decimal 52 (-1)) (← A.logVolume (← A.volume vocabulary)))
  let byBranches := A.sub byVolume (A.mul (A.decimal 23 (-2)) (← A.ofInt complexity))
  return A.sub byBranches (A.mul (A.decimal 162 (-1)) (← A.logOfInt lines))

def maintainability (text : List Char) (complexity : ℤ) : Except Fault ℤ := do
  let index ← A.maintainabilityIndex (vocabulary text) (Text.lines text).length complexity
  A.roundHalfUp (A.clamp index)

def duplication (text : List Char) : Except Fault ℤ := do
  let lines := candidates text
  if lines.isEmpty then return 0
  let share ← A.divide (repeatedCount lines) lines.length
  A.roundHalfUp (A.mul share (A.decimal 100 0))

/-- The part of the score that a number of points brings, if any are left. -/
def remainingShare (points : ℤ) : Except Fault R := do
  let rest ← if 0 < points then A.ofInt points else .ok (A.decimal 0 0)
  return A.mul rest (A.decimal 3 (-1))

def qualityScore (complexity maintainability duplication : ℤ) : Except Fault ℤ := do
  let first ← A.remainingShare (100 - complexity * 5)
  let second := A.mul (← A.ofInt maintainability) (A.decimal 4 (-1))
  let third ← A.remainingShare (100 - duplication)
  A.roundHalfUp (A.add (A.add first second) third)

/-- The metrics of a text. -/
def ofText (text : List Char) : Except Fault Metrics := do
  let complexity := complexity text
  let maintainability ← A.maintainability text complexity
  let duplication ← A.duplication text
  let score ← A.qualityScore complexity maintainability duplication
  return ⟨complexity, maintainability, duplication, linesOfCode text, score⟩

variable {A} {text : List Char}

/-- If all the logarithms that it takes are there, the maintainability can be computed unless one of the
two counts is no number. -/
theorem maintainabilityIndex_cases {vocabulary lines : ℕ} {c : ℤ}
    (hinformation : Returns (A.log2OfInt (vocabulary + 1)))
    (hvolume : ∀ volume, Returns (A.logVolume volume)) (hlines : Returns (A.logOfInt lines)) :
    Returns (A.maintainabilityIndex vocabulary lines c) ∨
      ∃ fault, (A.ofInt vocabulary = .error fault ∨ A.ofInt c = .error fault) ∧
        A.maintainabilityIndex vocabulary lines c = .error fault := by
  obtain ⟨information, hinformation⟩ := hinformation
  obtain ⟨long, hlines⟩ := hlines
  unfold maintainabilityIndex volume
  rw [hinformation, ok_bind]
  -- the logarithms are there, so only turning a count into a number can fail
  cases hvocabulary : A.ofInt vocabulary with
  | error fault => exact .inr ⟨fault, .inl rfl, rfl⟩
  | ok number =>
    obtain ⟨logarithm, hlogarithm⟩ := hvolume (A.mul number information)
    show Returns (A.logVolume (A.mul number information) >>= _) ∨ ∃ fault, _ ∧
      (A.logVolume (A.mul number information) >>= _) = _
    rw [hlogarithm, ok_bind]
    cases hcomplexity : A.ofInt c with
    | error fault => exact .inr ⟨fault, .inr rfl, rfl⟩
    | ok branches =>
      rw [ok_bind, hlines]
      exact .inl (returns_ok _)

/-- The metrics of a text are on their scales if each of those that are computed is. -/
theorem exists_isBounded
    (hmaintainability : ∃ m, A.maintainability text (complexity text) = .ok m ∧ IsOnScale m)
    (hduplication : ∃ d, A.duplication text = .ok d ∧ IsOnScale d)
    (hscore : ∀ c m d, 0 ≤ c → IsOnScale m → IsOnScale d →
      ∃ score, A.qualityScore c m d = .ok score ∧ IsOnScale score) :
    ∃ m, A.ofText text = .ok m ∧ m.IsBounded text := by
  obtain ⟨m, hm, hmScale⟩ := hmaintainability
  obtain ⟨d, hd, hdScale⟩ := hduplication
  obtain ⟨score, hs, hsScale⟩ := hscore (complexity text) m d (Int.natCast_nonneg _) hmScale hdScale
  refine ⟨⟨complexity text, m, d, linesOfCode text, score⟩, ?_, ?_, hmScale, hdScale, hsScale,
    Int.natCast_nonneg _, ?_⟩
  · unfold ofText
    dsimp only
    rw [hm, ok_bind, hd, ok_bind, hs]
    rfl
  · show (1 : ℤ) ≤ complexity text
    unfold complexity
    omega
  · exact Int.ofNat_le.2 (List.length_filter_le ..)

end Computation

/-! ## Real numbers -/

section Exact

/-- The real numbers, with given functions for the logarithms of positive numbers. -/
noncomputable def exact (log log2 : {x : ℝ // 0 < x} → ℝ) : Arithmetic ℝ where
  ofInt i := .ok i
  decimal digits exponent := digits * 10 ^ exponent
  add := (· + ·)
  sub := (· - ·)
  mul := (· * ·)
  lt x y := decide (x < y)
  divide i n := if n = 0 then .error divisionByZero else .ok (i / n)
  log x := if h : 0 < x then .ok (log ⟨x, h⟩) else .error Double.outsideDomain
  logOfInt i := if h : 0 < (i : ℝ) then .ok (log ⟨i, h⟩) else .error Double.outsideDomain
  log2OfInt i := if h : 0 < (i : ℝ) then .ok (log2 ⟨i, h⟩) else .error Double.outsideDomain
  floor x := .ok ⌊x⌋

variable (log log2 : {x : ℝ // 0 < x} → ℝ)

theorem exact_tenths (digits : ℕ) : (exact log log2).decimal digits (-1) = digits / 10 := by
  show (digits * 10 ^ (-1 : ℤ) : ℝ) = _
  rw [zpow_neg_one]
  exact (div_eq_mul_inv _ _).symm

theorem exact_roundHalfUp (x : ℝ) : (exact log log2).roundHalfUp x = .ok ⌊x + 1 / 2⌋ := by
  have hhalf : ((5 : ℕ) / 10 : ℝ) = 1 / 2 := by norm_num
  unfold roundHalfUp
  rw [exact_tenths, hhalf]
  rfl

/-- A number that lies on the scale is rounded to an integer that does. -/
theorem isOnScale_floor {x : ℝ} (hlow : 0 ≤ x) (hhigh : x ≤ 100) : IsOnScale ⌊x + 1 / 2⌋ := by
  constructor
  · exact Int.floor_nonneg.2 (by linarith)
  · refine Int.lt_add_one_iff.1 (Int.floor_lt.2 ?_)
    norm_num
    linarith

theorem exact_clamp (x : ℝ) : 0 ≤ (exact log log2).clamp x ∧ (exact log log2).clamp x ≤ 100 := by
  have hclamp : (exact log log2).clamp x =
      if (if 0 < x then x else 0) < 100 then if 0 < x then x else 0 else 100 := by
    simp [clamp, exact]
  rw [hclamp]
  split_ifs <;> constructor <;> linarith

/-- The volume is taken the logarithm of where it is positive only. -/
theorem returns_logVolume (volume : ℝ) : Returns ((exact log log2).logVolume volume) := by
  unfold logVolume
  split_ifs with hlt
  · have hpos : 0 < volume := by simpa [exact] using hlt
    exact ⟨_, dif_pos hpos⟩
  · exact returns_ok _

theorem exact_maintainability (text : List Char) (complexity : ℤ) :
    ∃ m, (exact log log2).maintainability text complexity = .ok m ∧ IsOnScale m := by
  have hlines : 0 < (Text.lines text).length :=
    List.length_pos_iff.2 (Text.splitOnChar_ne_nil '\n' text)
  have hinformation : Returns ((exact log log2).log2OfInt (vocabulary text + 1)) :=
    ⟨_, dif_pos (Int.cast_pos.2 (by omega))⟩
  have hlong : Returns ((exact log log2).logOfInt (Text.lines text).length) :=
    ⟨_, dif_pos (Int.cast_pos.2 (Int.natCast_pos.2 hlines))⟩
  have hcases := maintainabilityIndex_cases (c := complexity) hinformation (returns_logVolume log log2)
    hlong
  obtain ⟨index, hindex⟩ := hcases.resolve_right fun ⟨_, hfault, _⟩ => hfault.elim nofun nofun
  obtain ⟨hlow, hhigh⟩ := exact_clamp log log2 index
  refine ⟨_, ?_, isOnScale_floor hlow hhigh⟩
  unfold maintainability
  rw [hindex, ok_bind, exact_roundHalfUp]

theorem exact_duplication (text : List Char) :
    ∃ d, (exact log log2).duplication text = .ok d ∧ IsOnScale d := by
  unfold duplication
  dsimp only
  split_ifs with hnone
  · exact ⟨0, rfl, by decide⟩
  · have hlength : (candidates text).length ≠ 0 := by simpa using hnone
    have hshare : ((repeatedCount (candidates text) : ℤ) / (candidates text).length : ℝ) ≤ 1 := by
      refine div_le_one_of_le₀ ?_ (Nat.cast_nonneg _)
      exact_mod_cast Nat.sub_le _ _
    have hdivide : (exact log log2).divide (repeatedCount (candidates text))
        (candidates text).length =
          .ok ((repeatedCount (candidates text) : ℤ) / (candidates text).length : ℝ) :=
      if_neg hlength
    have hpercent : (exact log log2).mul
        ((repeatedCount (candidates text) : ℤ) / (candidates text).length : ℝ)
          ((exact log log2).decimal 100 0) =
        (repeatedCount (candidates text) : ℤ) / (candidates text).length * 100 := by
      simp [exact]
    rw [hdivide, ok_bind, exact_roundHalfUp, hpercent]
    refine ⟨_, rfl, isOnScale_floor (by positivity) ?_⟩
    linarith

theorem exact_remainingShare (points : ℤ) :
    (exact log log2).remainingShare points = .ok ((max 0 points : ℤ) * (3 / 10)) := by
  unfold remainingShare
  rw [exact_tenths, Nat.cast_ofNat]
  split_ifs with hpos
  · rw [max_eq_right hpos.le]
    rfl
  · rw [max_eq_left (not_lt.1 hpos)]
    simp [exact]

theorem exact_qualityScore {c m d : ℤ} (hc : 0 ≤ c) (hm : IsOnScale m) (hd : 0 ≤ d) :
    ∃ score, (exact log log2).qualityScore c m d = .ok score ∧ IsOnScale score := by
  have hvalue : (exact log log2).qualityScore c m d = .ok ⌊((max 0 (100 - c * 5) : ℤ) * (3 / 10) +
      m * (4 / 10) + (max 0 (100 - d) : ℤ) * (3 / 10) + 1 / 2 : ℝ)⌋ := by
    unfold qualityScore
    rw [exact_remainingShare, exact_remainingShare, ok_bind, exact_tenths, Nat.cast_ofNat]
    exact exact_roundHalfUp log log2 _
  -- a weighted mean of three numbers on the scale is on the scale
  have hrest {lost : ℤ} (h : 0 ≤ lost) :
      (0 : ℝ) ≤ (max 0 (100 - lost) : ℤ) ∧ ((max 0 (100 - lost) : ℤ) : ℝ) ≤ 100 := by
    constructor
    · exact_mod_cast le_max_left 0 (100 - lost)
    · exact_mod_cast (by omega : max 0 (100 - lost) ≤ 100)
  obtain ⟨hcLow, hcHigh⟩ := hrest (mul_nonneg hc (by norm_num : (0 : ℤ) ≤ 5))
  obtain ⟨hdLow, hdHigh⟩ := hrest hd
  have hmLow : (0 : ℝ) ≤ m := by exact_mod_cast hm.1
  have hmHigh : (m : ℝ) ≤ 100 := by exact_mod_cast hm.2
  exact ⟨_, hvalue, isOnScale_floor (by positivity) (by linarith)⟩

/-- Over the real numbers every text has metrics, and they are on their scales. -/
theorem exact_ofText (text : List Char) :
    ∃ m, (exact log log2).ofText text = .ok m ∧ m.IsBounded text :=
  exists_isBounded (exact_maintainability log log2 text _) (exact_duplication log log2 text)
    fun _ _ _ hc hm hd => exact_qualityScore log log2 hc hm hd.1

end Exact

/-! ## Floating-point numbers -/

section Double

/-- The floating-point numbers, with their own logarithms. -/
def double : Arithmetic Double where
  ofInt := Amount.doubleOfInt
  decimal := Measure.decimal
  add := Double.add
  sub := Double.sub
  mul := Double.mul
  lt := Double.lt
  divide i n := if n = 0 then .error divisionByZero else (Amount.int i).divideBy n
  log := Double.log
  logOfInt := Double.logOfInt
  log2OfInt := Double.log2OfInt
  floor := Double.floor

theorem double_decimals : double.decimal 0 0 = .finite 0 ∧ double.decimal 100 0 = .finite 100 ∧
    double.decimal 171 0 = .finite 171 ∧ double.decimal 5 (-1) = .half := by
  decide +kernel

theorem double_roundHalfUp (x : Double) : double.roundHalfUp x = CodeReview.roundHalfUp x := by
  unfold roundHalfUp
  rw [double_decimals.2.2.2]
  rfl

theorem double_clamp (x : Double) : double.clamp x = Measure.clamp x := by
  unfold clamp
  rw [double_decimals.1, double_decimals.2.1]
  rfl

theorem double_maintainability (text : List Char) (complexity : ℤ) :
    double.maintainability text complexity = Measure.maintainability text (.int complexity) := by
  obtain ⟨hzero, -, hhundredSeventyOne, -⟩ := double_decimals
  have hindex : double.maintainabilityIndex (vocabulary text) (Text.lines text).length complexity =
      Measure.maintainabilityIndex (vocabulary text) (Text.lines text).length (.int complexity) := by
    unfold maintainabilityIndex logVolume
    rw [hzero, hhundredSeventyOne]
    rfl
  unfold maintainability Measure.maintainability
  simp only [hindex, double_clamp, double_roundHalfUp]

theorem double_duplication (text : List Char) :
    double.duplication text = Measure.duplication text := by
  unfold duplication Measure.duplication
  dsimp only
  split_ifs with hnone
  · rfl
  · have hlength : (candidates text).length ≠ 0 := by simpa using hnone
    have hdivide : double.divide (repeatedCount (candidates text)) (candidates text).length =
        (Amount.int (repeatedCount (candidates text))).divideBy (candidates text).length :=
      if_neg hlength
    rw [hdivide, double_decimals.2.1]
    simp only [double_roundHalfUp]
    rfl

theorem double_remainingShare (points : ℤ) :
    double.remainingShare points = Measure.remainingShare points := by
  unfold remainingShare Measure.remainingShare
  rw [positivePart_int, double_decimals.1]
  split_ifs
  · show (Amount.doubleOfInt points >>= fun rest => pure (rest.mul (Measure.decimal 3 (-1)))) =
      (Amount.doubleOfInt points).map _
    cases Amount.doubleOfInt points with
    | ok x => rfl
    | error fault => rfl
  · rfl

theorem double_qualityScore (c m d : ℤ) :
    double.qualityScore c m d = Measure.qualityScore (.int c) (.int m) (.int d) := by
  rw [qualityScore_eq]
  unfold qualityScore
  simp only [double_remainingShare, double_roundHalfUp, maintainabilityShare_int]
  refine congrArg (Measure.remainingShare (100 - c * 5) >>= ·) (funext fun first => ?_)
  show (Amount.doubleOfInt m >>= _) = _
  cases Amount.doubleOfInt m with
  | ok x => rfl
  | error fault => rfl

/-- Over the floating-point numbers the computation is the one that runs. No division by zero and no
logarithm of a number that has none is ever come to there. -/
theorem double_ofText (text : List Char) : double.ofText text = Metrics.ofText text := by
  unfold ofText Metrics.ofText
  simp only [double_maintainability, double_duplication, double_qualityScore]

end Double

end Arithmetic

end Measure

end CodeReview
