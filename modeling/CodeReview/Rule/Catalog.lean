/-
Catalogs: one table of detectors a category. `Catalog.analyze` gives the findings of the enabled
categories, category by category and, within one, line by line in the order of the table. A detector
that fails on some line adds nothing and takes nothing from the others.
-/
import CodeReview.Rule.Custom
import CodeReview.Rule.Performance
import CodeReview.Rule.Security
import CodeReview.Rule.Style
import CodeReview.Text.Lines

namespace CodeReview

structure Catalog where
  security : List Detector
  performance : List Detector
  style : List Detector

namespace Catalog

def table (c : Catalog) : Category → List Detector
  | .security => c.security
  | .performance => c.performance
  | .style => c.style

/-- The catalog of the rules that are always there. -/
def standard : Catalog where
  security := Rule.securityRules
  performance := Rule.performanceRules
  style := Rule.styleRules

/-- The catalog with detectors added at the end of the style table. -/
def addStyle (c : Catalog) (detectors : List Detector) : Catalog :=
  { c with style := c.style ++ detectors }

/-- The catalog with custom rules added, which are given as a value that yields them. -/
def withCustom {σ : Type} (c : Catalog) (rules : Value) : Act σ Catalog := do
  match rules.elements? with
  | none => Act.fail .wrongType
  | some rules => return c.addStyle (← Rule.customRules rules)

/-- The names of all rules, category by category. -/
def ruleNames (c : Catalog) : List String :=
  Category.all.flatMap fun category => (c.table category).map (·.rule)

/-! ## Analysis -/

/-- The findings of a detector, none if it fails. -/
def findingsOf (lines : List (List Char)) (d : Detector) : List Finding :=
  match d.scan lines with
  | .ok findings => findings
  | .error _ => []

/-- A notice where a detector fails. -/
def failureOf (file : String) (lines : List (List Char)) (d : Detector) : Option Notice :=
  match d.scan lines with
  | .ok _ => none
  | .error _ => some (.detectorFailed d.rule file)

/-- The findings of a table, by line; those of one line stay in the order of the table. -/
def analyzeTable (detectors : List Detector) (lines : List (List Char)) : List Finding :=
  (detectors.flatMap (findingsOf lines)).mergeSort fun f g => f.line ≤ g.line

/-- The findings in a text. -/
def findings (c : Catalog) (enabled : Category → Bool) (text : List Char) : List Finding :=
  if text.isEmpty then []
  else
    (Category.all.filter enabled).flatMap fun category =>
      analyzeTable (c.table category) (Text.lines text)

/-- The notices of an analysis. -/
def failures (c : Catalog) (enabled : Category → Bool) (file : String) (text : List Char) :
    List Notice :=
  if text.isEmpty then []
  else
    (Category.all.filter enabled).flatMap fun category =>
      (c.table category).filterMap (failureOf file (Text.lines text))

/-- The findings in a text, with a notice for each detector that fails. -/
def analyze {σ : Type} (c : Catalog) (enabled : Category → Bool) (file : String)
    (text : List Char) : Act σ (List Finding) := do
  Act.noteAll (c.failures enabled file text)
  return c.findings enabled text

/-- Which categories a value enables that yields their names. -/
def enabledBy? (categories : Value) : Option (Category → Bool) :=
  match categories.elements? with
  | none => none
  | some names =>
    if names.all (·.isKey) then some fun category => names.any (·.sameKey (.string category.name))
    else none

end Catalog

end CodeReview
