/-
Custom rules: patterns that a configuration adds to the style rules. One that is no pattern is left
out with a notice; only faults that are not about the pattern's form stop the building of the rest.
-/
import CodeReview.Act
import CodeReview.Pattern.Reader
import CodeReview.Rule.Detector
import CodeReview.Value

namespace CodeReview.Rule

/-- The fault that stops everything, where reading a pattern failed for a reason other than its
form. -/
def fatal? : Pattern.ReadError → Option Fault
  | .malformed => none
  | .countTooLarge | .codeTooLarge => some .outOfRange
  | .numberTooLong => some (.invalid "Exceeds the limit for integer string conversion")
  | .contradictoryFlags => some (.invalid "ASCII and UNICODE flags are incompatible")
  | .nestedTooDeep => some .nestedTooDeep

/-- The detector of a custom rule. -/
def customDetector (source : String) (pattern : Pattern) : Detector :=
  .ofPatterns "custom-rule" "style" "warning" ("Line matches custom rule pattern: " ++ source)
    [pattern] []

/-- The detector of one custom rule; `none`, with a notice, where there is none. -/
def customRule {σ : Type} (rule : Value) : Act σ (Option Detector) :=
  match rule with
  | .string source =>
    match Pattern.read source.toList with
    | .ok pattern => pure (some (customDetector source pattern))
    | .error e =>
      match fatal? e with
      | some fault => Act.fail fault
      | none => do Act.note (.invalidCustomRule source); return none
  | _ => do Act.note (.invalidCustomRule ""); return none

/-- The detectors of custom rules, in order. -/
def customRules {σ : Type} : List Value → Act σ (List Detector)
  | [] => pure []
  | rule :: rules => do
    let detector ← customRule rule
    let others ← customRules rules
    return detector.toList ++ others

end CodeReview.Rule
