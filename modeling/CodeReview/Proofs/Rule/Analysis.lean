/-
What an analysis reports. A table is run detector by detector and its findings are then sorted by
line; `analyzeTable_eq_byLine` says that this is the same as going through the lines and, on each,
through the detectors that fail on none of the lines. `analyze_withCustom` says it of a whole catalog
and the custom rules that were added to it.
-/
import CodeReview.Proofs.StableSort
import CodeReview.Rule.Catalog

namespace CodeReview

/-! ## One detector -/

namespace Detector

/-- The detector cannot look at the line, or has no words for what it saw there. -/
def failsOn (d : Detector) (line : List Char) : Bool :=
  match d.locate line with
  | .error _ => true
  | .ok none => false
  | .ok (some _) => !(d.describe line).isOk

/-- What the detector reports of the line with a number. -/
def finding? (d : Detector) (number : Nat) (line : List Char) : Option Finding :=
  match d.locate line, d.describe line with
  | .ok (some column), .ok message =>
    some ⟨number, column, message, d.severity, d.rule, d.category⟩
  | _, _ => none

theorem finding?_line {d : Detector} {number : Nat} {line : List Char} {f : Finding}
    (h : d.finding? number line = some f) : f.line = number := by
  unfold finding? at h
  split at h
  · cases h; rfl
  · cases h

theorem finding?_rule {d : Detector} {number : Nat} {line : List Char} {f : Finding}
    (h : d.finding? number line = some f) : f.rule = d.rule := by
  unfold finding? at h
  split at h
  · cases h; rfl
  · cases h

/-- A detector made of a pattern looks at every line, and reports those in which the pattern occurs. -/
theorem ofPatterns_spec {rule category severity message : String} (p : Pattern) (line : List Char) :
    (ofPatterns rule category severity message [p] []).failsOn line = false ∧ ∀ number,
      ((ofPatterns rule category severity message [p] []).finding? number line).isSome =
        (p.search line).isSome := by
  have hlocate : (ofPatterns rule category severity message [p] []).locate line =
      .ok ((p.search line).map (·.start.position + 1)) := by
    show Except.ok (columnOf? [p] [] line) = _
    unfold columnOf?
    rw [List.any_nil, if_neg Bool.false_ne_true, List.findSome?_cons]
    cases p.search line <;> rfl
  unfold failsOn finding?
  rw [hlocate]
  cases p.search line with
  | none => exact ⟨rfl, fun _ => rfl⟩
  | some found => exact ⟨rfl, fun _ => rfl⟩

theorem look_eq (d : Detector) (number : Nat) (line : List Char) :
    d.look number line = if d.failsOn line then .error .failed else .ok (d.finding? number line) := by
  unfold look failsOn finding?
  cases d.locate line with
  | error fault => cases fault; rfl
  | ok found =>
    cases found with
    | none => rfl
    | some column =>
      cases d.describe line with
      | error fault => cases fault; rfl
      | ok message => rfl

/-- A detector that fails on some line finds nothing at all. -/
theorem scanFrom_eq (d : Detector) (lines : List (List Char)) (number : Nat) :
    d.scanFrom number lines = if lines.any d.failsOn then .error .failed
      else .ok ((lines.zipIdx number).filterMap fun p => d.finding? p.2 p.1) := by
  induction lines generalizing number with
  | nil => rfl
  | cons line lines ih =>
    rw [scanFrom, look_eq, ih (number + 1), List.any_cons]
    cases d.failsOn line with
    | true => rfl
    | false =>
      cases lines.any d.failsOn with
      | true => rfl
      | false =>
        rw [List.zipIdx_cons, List.filterMap_cons]
        cases d.finding? number line <;> rfl

end Detector

namespace Catalog

/-! ## One table -/

/-- What some detectors report of the line with a number, in their order. -/
def onLine (detectors : List Detector) (number : Nat) (line : List Char) : List Finding :=
  detectors.filterMap (·.finding? number line)

/-- The findings of a table, line by line, of the detectors that fail on no line. -/
def byLine (detectors : List Detector) (lines : List (List Char)) : List Finding :=
  (lines.zipIdx 1).flatMap fun (line, number) =>
    onLine (detectors.filter fun d => !lines.any d.failsOn) number line

theorem line_of_mem_onLine {detectors : List Detector} {number : Nat} {line : List Char}
    {f : Finding} (h : f ∈ onLine detectors number line) : f.line = number := by
  obtain ⟨d, -, hd⟩ := List.mem_filterMap.1 h
  exact Detector.finding?_line hd

theorem findingsOf_eq (lines : List (List Char)) (d : Detector) :
    findingsOf lines d = if lines.any d.failsOn then []
      else (lines.zipIdx 1).filterMap fun p => d.finding? p.2 p.1 := by
  unfold findingsOf Detector.scan
  rw [Detector.scanFrom_eq]
  cases lines.any d.failsOn <;> rfl

theorem flatMap_findingsOf (detectors : List Detector) (lines : List (List Char)) :
    detectors.flatMap (findingsOf lines) =
      (detectors.filter fun d => !lines.any d.failsOn).flatMap fun d =>
        (lines.zipIdx 1).filterMap fun p => d.finding? p.2 p.1 := by
  induction detectors with
  | nil => rfl
  | cons d detectors ih =>
    rw [List.flatMap_cons, ih, findingsOf_eq, List.filter_cons]
    cases lines.any d.failsOn <;> rfl

/-- A number belongs to one line at most. -/
theorem filter_zipIdx (lines : List (List Char)) (start k : Nat) :
    (lines.zipIdx start).filter (·.2 = k) = [] ∨
      ∃ line, (lines.zipIdx start).filter (·.2 = k) = [(line, k)] := by
  induction lines generalizing start with
  | nil => exact .inl rfl
  | cons line lines ih =>
    rw [List.zipIdx_cons, List.filter_cons]
    by_cases hk : start = k
    · subst hk
      have hrest : (lines.zipIdx (start + 1)).filter (·.2 = start) = [] := by
        rw [List.filter_eq_nil_iff]
        intro p hp
        have := List.le_snd_of_mem_zipIdx hp
        simp only [decide_eq_true_eq]
        omega
      exact .inr ⟨line, by simp [hrest]⟩
    · simpa [hk] using ih (start + 1)

theorem filter_filterMap_finding? (d : Detector) (numbered : List (List Char × Nat)) (k : Nat) :
    (numbered.filterMap fun p => d.finding? p.2 p.1).filter (·.line = k) =
      (numbered.filter (·.2 = k)).filterMap fun p => d.finding? p.2 p.1 := by
  induction numbered with
  | nil => rfl
  | cons p numbered ih =>
    rw [List.filterMap_cons, List.filter_cons]
    cases hf : d.finding? p.2 p.1 with
    | none =>
      rw [ih]
      split <;> simp [hf]
    | some f =>
      have hline := Detector.finding?_line hf
      rw [List.filter_cons, hline, ih]
      split <;> simp [hf]

theorem filter_flatMap_onLine (detectors : List Detector) (numbered : List (List Char × Nat))
    (k : Nat) :
    (numbered.flatMap fun p => onLine detectors p.2 p.1).filter (·.line = k) =
      (numbered.filter (·.2 = k)).flatMap fun p => onLine detectors p.2 p.1 := by
  induction numbered with
  | nil => rfl
  | cons p numbered ih =>
    rw [List.flatMap_cons, List.filter_append, ih, List.filter_cons]
    by_cases hk : p.2 = k
    · rw [List.filter_eq_self.2 fun f hf => by simpa using (line_of_mem_onLine hf).trans hk]
      simp [hk]
    · rw [List.filter_eq_nil_iff.2 fun f hf => by
        simpa using fun h => hk ((line_of_mem_onLine hf).symm.trans h)]
      simp [hk]

theorem pairwise_flatMap_onLine (detectors : List Detector) (lines : List (List Char))
    (start : Nat) :
    ((lines.zipIdx start).flatMap fun p => onLine detectors p.2 p.1).Pairwise
      fun f g => f.line ≤ g.line := by
  induction lines generalizing start with
  | nil => exact List.Pairwise.nil
  | cons line lines ih =>
    rw [List.zipIdx_cons, List.flatMap_cons, List.pairwise_append]
    refine ⟨?_, ih (start + 1), ?_⟩
    · exact List.pairwise_of_forall_mem_list fun f hf g hg => by
        rw [line_of_mem_onLine hf, line_of_mem_onLine hg]
    · intro f hf g hg
      obtain ⟨p, hp, hg⟩ := List.mem_flatMap.1 hg
      have := List.le_snd_of_mem_zipIdx hp
      rw [line_of_mem_onLine hf, line_of_mem_onLine hg]
      omega

/-- Sorting what the detectors find one after the other by line gives what they find line by line. -/
theorem analyzeTable_eq_byLine (detectors : List Detector) (lines : List (List Char)) :
    analyzeTable detectors lines = byLine detectors lines := by
  unfold analyzeTable byLine
  rw [flatMap_findingsOf]
  generalize detectors.filter (fun d => !lines.any d.failsOn) = sound
  refine StableSort.mergeSort_eq_of_filter_eq Finding.line
    (pairwise_flatMap_onLine sound lines 1) fun k => ?_
  rw [filter_flatMap_onLine, List.filter_flatMap]
  simp only [filter_filterMap_finding?]
  -- only the line with number `k` is left, and with one line there is nothing to reorder
  rcases filter_zipIdx lines 1 k with h | ⟨line, h⟩
  · simp [h]
  · rw [h, List.flatMap_singleton]
    unfold onLine
    induction sound with
    | nil => rfl
    | cons d sound ih =>
      rw [List.flatMap_cons, ih, List.filterMap_cons, List.filterMap_cons]
      cases d.finding? k line <;> rfl

/-- The findings of a table are those of each detector that fails on no line, on each line. -/
theorem mem_analyzeTable_iff {detectors : List Detector} {lines : List (List Char)} {f : Finding} :
    f ∈ analyzeTable detectors lines ↔ ∃ d ∈ detectors, (∀ line ∈ lines, d.failsOn line = false) ∧
      ∃ i line, lines[i]? = some line ∧ d.finding? (i + 1) line = some f := by
  rw [analyzeTable_eq_byLine]
  unfold byLine onLine
  simp only [List.mem_flatMap, List.mem_filterMap, List.mem_filter, Bool.not_eq_true', List.any_eq_false,
    Bool.not_eq_true, Prod.exists, List.mk_mem_zipIdx_iff_le_and_getElem?_sub]
  constructor
  · rintro ⟨line, number, ⟨hnumber, hline⟩, d, ⟨hd, hsound⟩, hf⟩
    refine ⟨d, hd, hsound, number - 1, line, hline, ?_⟩
    rwa [Nat.sub_add_cancel hnumber]
  · rintro ⟨d, hd, hsound, i, line, hline, hf⟩
    exact ⟨line, i + 1, ⟨Nat.le_add_left 1 i, hline⟩, d, ⟨hd, hsound⟩, hf⟩

end Catalog

/-! ## Custom rules -/

namespace Rule

/-- The detector of a custom rule, where the rule is a pattern. -/
def accepted? : Value → Option Detector
  | .string source =>
    match Pattern.read source.toList with
    | .ok pattern => some (customDetector source pattern)
    | .error _ => none
  | _ => none

theorem customRule_result {σ : Type} {rule : Value} {s : σ} {found : Option Detector}
    (h : (customRule rule s).result = .ok found) : found = accepted? rule := by
  cases rule with
  | string source =>
    unfold customRule at h
    unfold accepted?
    dsimp only at h ⊢
    cases hread : Pattern.read source.toList with
    | ok pattern => rw [hread] at h; cases h; rfl
    | error e =>
      rw [hread] at h
      dsimp only at h
      cases hfatal : fatal? e with
      | some fault => rw [hfatal] at h; cases h
      | none => rw [hfatal] at h; cases h; rfl
  | _ => cases h; rfl

/-- The custom detectors are those of the rules that are patterns, in the order of the rules. -/
theorem customRules_result {σ : Type} {rules : List Value} {s : σ} {found : List Detector}
    (h : (customRules rules s).result = .ok found) : found = rules.filterMap accepted? := by
  induction rules generalizing s found with
  | nil => cases h; rfl
  | cons rule rules ih =>
    rw [customRules] at h
    obtain ⟨detector, hrule, h⟩ := Act.result_bind_eq_ok.1 h
    obtain ⟨others, hrest, h⟩ := Act.result_bind_eq_ok.1 h
    cases h
    rw [List.filterMap_cons, ← customRule_result hrule, ← ih hrest]
    cases detector <;> rfl

end Rule

namespace Catalog

/-- The detectors that custom rules add to the table of a category. -/
def customTable (rules : Value) (category : Category) : List Detector :=
  if category = .style then (rules.elements?.getD []).filterMap Rule.accepted? else []

theorem table_withCustom {σ : Type} {c c' : Catalog} {rules : Value} {s : σ}
    (h : (c.withCustom rules s).result = .ok c') (category : Category) :
    c'.table category = c.table category ++ customTable rules category := by
  unfold withCustom at h
  unfold customTable
  cases helements : rules.elements? with
  | none => rw [helements] at h; cases h
  | some items =>
    rw [helements] at h
    obtain ⟨custom, hcustom, h⟩ := Act.result_bind_eq_ok.1 h
    cases h
    rw [Option.getD_some, ← Rule.customRules_result hcustom]
    cases category <;> simp [table, addStyle]

/-! ## The whole catalog -/

/-- No two rules of the standard catalog have one name. -/
theorem nodup_rules : ((Category.all.flatMap standard.table).map (·.rule)).Nodup := by
  rw [List.map_flatMap]
  show standard.ruleNames.Nodup
  decide +kernel

/-- An analysis does not fail. -/
theorem result_analyze {σ : Type} (c : Catalog) (enabled : Category → Bool) (file : String)
    (text : List Char) (s : σ) : (c.analyze enabled file text s).result = .ok (c.findings enabled text) := by
  unfold analyze
  rw [Act.result_bind, Act.result_noteAll]
  rfl

theorem mem_findings_iff {c : Catalog} {enabled : Category → Bool} {text : List Char} {f : Finding} :
    f ∈ c.findings enabled text ↔ text ≠ [] ∧ ∃ category, enabled category = true ∧
      f ∈ analyzeTable (c.table category) (Text.lines text) := by
  unfold findings
  split
  · next hempty => exact iff_of_false List.not_mem_nil fun h => h.1 (List.isEmpty_iff.1 hempty)
  · next hempty =>
    rw [List.isEmpty_iff] at hempty
    have hall : ∀ category, category ∈ Category.all := by
      intro category
      cases category <;> decide
    simp only [List.mem_flatMap, List.mem_filter, and_iff_right (hall _), and_iff_right (hempty : text ≠ [])]

/-- A catalog to which custom rules were added reports, for the enabled categories in their order, the
findings of its detectors line by line; a detector that fails on some line is as if it were not in
its table. -/
theorem analyze_withCustom {σ τ : Type} {c c' : Catalog} {rules : Value} {s : σ}
    (hc : (c.withCustom rules s).result = .ok c') (enabled : Category → Bool) (file : String)
    {text : List Char} (ht : text ≠ []) (t : τ) :
    (c'.analyze enabled file text t).result = .ok ((Category.all.filter enabled).flatMap
      fun category => byLine (c.table category ++ customTable rules category) (Text.lines text)) := by
  unfold analyze
  rw [Act.result_bind, Act.result_noteAll]
  dsimp only
  rw [Act.result_pure, findings, if_neg (by simpa using ht)]
  simp only [analyzeTable_eq_byLine, table_withCustom hc]

/-- A table with a detector that fails and one that does not, and two rules of which one is no
pattern. -/
theorem analyze_withCustom_of_failing :
    let c : Catalog :=
      ⟨[], [], [.failing "t" "style" "info" "m", .ofLargeLiterals "l" "style" "info" "m" 1]⟩
    let c' := c.addStyle [Rule.customDetector "x" (.char (.only 'x'))]
    let text := ['a', 'x', '\n', '[', 'x']
    (c.withCustom (.list [.string "x", .string "("]) ()).result = .ok c' ∧ text ≠ [] ∧
      (c'.analyze (fun _ => true) "a.js" text ()).result = .ok [
        ⟨1, 2, "Line matches custom rule pattern: x", "warning", "custom-rule", "style"⟩,
        ⟨2, 1, "m", "info", "l", "style"⟩,
        ⟨2, 2, "Line matches custom rule pattern: x", "warning", "custom-rule", "style"⟩] := by
  intro c c' text
  have hc : (c.withCustom (.list [.string "x", .string "("]) ()).result = .ok c' := by rfl
  have ht : text ≠ [] := by decide
  refine ⟨hc, ht, ?_⟩
  rw [analyze_withCustom hc (fun _ => true) "a.js" ht ()]
  rfl

end Catalog

end CodeReview
