/-
Quality metrics of a text. The maintainability falls with the logarithm of the volume, with the
complexity and with the logarithm of the length; the quality score blends complexity, maintainability
and duplication in the proportion 3 to 4 to 3. All of it is computed in floating point and rounded to
whole numbers, a half going up.
-/
import CodeReview.Metrics.Count
import CodeReview.Number.Amount
import CodeReview.Number.Logarithm

namespace CodeReview

structure Metrics where
  complexity : Int
  maintainability : Int
  duplication : Int
  linesOfCode : Int
  qualityScore : Int
  deriving DecidableEq, Repr

/-- The metrics of a text that is not analysed. -/
def Metrics.zero : Metrics := ⟨0, 0, 0, 0, 0⟩

namespace Measure

/-- The decimal `digits` times ten to the `exponent`. -/
def decimal (digits : Nat) (exponent : Int) : Double := .ofDecimal digits exponent

/-- The number if it is positive, else zero. -/
def positivePart (x : Amount) : Amount :=
  if Amount.lt (.float (.finite 0)) x then x else .float (.finite 0)

/-! ## The score -/

/-- The part of the score that complexity leaves: five points are lost for each. -/
def complexityShare (complexity : Amount) : Except Fault Double := do
  let lost ← complexity.mul (.int 5)
  let rest ← (Amount.int 100).sub lost
  return (← (positivePart rest).toDouble).mul (decimal 3 (-1))

/-- The part of the score that maintainability brings. -/
def maintainabilityShare (maintainability : Amount) : Except Fault Double :=
  return (← maintainability.toDouble).mul (decimal 4 (-1))

/-- The part of the score that duplication leaves. -/
def duplicationShare (duplication : Amount) : Except Fault Double := do
  let rest ← (Amount.int 100).sub duplication
  return (← (positivePart rest).toDouble).mul (decimal 3 (-1))

/-- The score of three values, each looked at when its turn comes; what is not there is of the wrong
kind. -/
def scoreOf (complexity maintainability duplication : Option Amount) : Except Fault Int := do
  let need (x : Option Amount) : Except Fault Amount :=
    match x with
    | some x => .ok x
    | none => .error .wrongType
  let first ← complexityShare (← need complexity)
  let second ← maintainabilityShare (← need maintainability)
  let third ← duplicationShare (← need duplication)
  roundHalfUp ((first.add second).add third)

/-- The score from 0 to 100 of metrics on their scales. -/
def qualityScore (complexity maintainability duplication : Amount) : Except Fault Int :=
  scoreOf (some complexity) (some maintainability) (some duplication)

/-! ## The metrics of a text -/

/-- The volume of a text with so many operators and operands. -/
def volume (vocabulary : Nat) : Except Fault Double := do
  let information ← Double.log2OfInt (vocabulary + 1)
  return (← Amount.doubleOfInt vocabulary).mul information

/-- The logarithm of a volume, zero where there is none. -/
def logVolume (volume : Double) : Except Fault Double :=
  if Double.lt (.finite 0) volume then volume.log else .ok (.finite 0)

/-- The maintainability before it is brought into range. -/
def maintainabilityIndex (vocabulary lines : Nat) (complexity : Amount) : Except Fault Double := do
  let byVolume := (Double.finite 171).sub ((decimal 52 (-1)).mul (← logVolume (← volume vocabulary)))
  let byBranches := byVolume.sub ((decimal 23 (-2)).mul (← complexity.toDouble))
  return byBranches.sub ((decimal 162 (-1)).mul (← Double.logOfInt lines))

/-- A number brought into the range from 0 to 100. -/
def clamp (x : Double) : Double :=
  let x := if Double.lt (.finite 0) x then x else .finite 0
  if Double.lt x (.finite 100) then x else .finite 100

def maintainability (text : List Char) (complexity : Amount) : Except Fault Int := do
  let index ← maintainabilityIndex (vocabulary text) (Text.lines text).length complexity
  roundHalfUp (clamp index)

/-- The percentage of lines that repeat an earlier one. -/
def duplication (text : List Char) : Except Fault Int := do
  let lines := candidates text
  if lines.isEmpty then return 0
  let share ← (Amount.int (repeatedCount lines)).divideBy lines.length
  roundHalfUp (share.mul (.finite 100))

end Measure

/-- The metrics of a text. -/
def Metrics.ofText (text : List Char) : Except Fault Metrics := do
  let complexity := Measure.complexity text
  let maintainability ← Measure.maintainability text (.int complexity)
  let duplication ← Measure.duplication text
  let score ← Measure.qualityScore (.int complexity) (.int maintainability) (.int duplication)
  return ⟨complexity, maintainability, duplication, Measure.linesOfCode text, score⟩

end CodeReview
