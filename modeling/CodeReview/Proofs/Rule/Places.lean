/-
Where findings point. Each kind of detector reports a column at which something stands, so that it points
at a character of the line; only a custom rule, which may match nothing at all, can point behind the last
(`Detector.PointsWithin`). Since no name is given to two of the rules that are always there, and a detector
speaks once of a line, none of them says two things about one line (`pairwise_findings`). For the standard
catalog with custom rules both are put together in `findings_pointInto`.
-/
import CodeReview.Proofs.Pattern.Width
import CodeReview.Proofs.Rule.Analysis

namespace CodeReview

/-! ## Columns of detectors -/

namespace Detector

variable {rule category severity message : String} {line : List Char}

/-- The columns that the detector reports are those of characters of the line, or at most `slack` behind
the last. -/
def PointsWithin (slack : ℕ) (d : Detector) : Prop :=
  ∀ line column, d.locate line = .ok (some column) → 1 ≤ column ∧ column ≤ line.length + slack

/-- A match of a pattern that takes a character begins at one. -/
theorem column_le_of_splits {slack : ℕ} {p : Pattern} {found : Pattern.Found} (h : found.Splits p line)
    (hp : 1 ≤ p.leastWidth + slack) : found.start.position + 1 ≤ line.length + slack := by
  have := h.start_add_leastWidth_le
  omega

theorem PointsWithin.ofPatterns {slack : ℕ} {patterns : List Pattern} {excuses : List String}
    (h : ∀ p ∈ patterns, 1 ≤ p.leastWidth + slack) :
    (ofPatterns rule category severity message patterns excuses).PointsWithin slack := by
  intro line column hlocate
  have hcolumn : columnOf? patterns (excuses.map String.toList) line = some column :=
    Except.ok.inj hlocate
  unfold columnOf? at hcolumn
  split at hcolumn
  · cases hcolumn
  · obtain ⟨p, hp, hfound⟩ := List.exists_of_findSome?_eq_some hcolumn
    obtain ⟨found, hsearch, rfl⟩ := Option.map_eq_some_iff.1 hfound
    exact ⟨Nat.le_add_left 1 _, column_le_of_splits (Pattern.splits_of_search hsearch) (h p hp)⟩

/-- A line that is too long is not empty. -/
theorem PointsWithin.ofLargeLiterals {maxLength : ℤ} (h : 0 ≤ maxLength) :
    (ofLargeLiterals rule category severity message maxLength).PointsWithin 0 := by
  intro line column hlocate
  have hcolumn : (if (line.length : ℤ) ≤ maxLength then none
      else if literalOpening.occursIn (Text.strip line) then some 1 else none) = some column :=
    Except.ok.inj hlocate
  split at hcolumn
  · cases hcolumn
  · split at hcolumn
    · obtain rfl := Option.some.inj hcolumn
      omega
    · cases hcolumn

theorem PointsWithin.ofMagicNumbers {allowed : List String} :
    (ofMagicNumbers rule category severity allowed).PointsWithin 0 := by
  intro line column hlocate
  have hcolumn : (magicNumber? (allowed.map String.toList) line).map (·.start.position + 1) = some column :=
    Except.ok.inj hlocate
  obtain ⟨found, hnumber, rfl⟩ := Option.map_eq_some_iff.1 hcolumn
  refine ⟨Nat.le_add_left 1 _, ?_⟩
  unfold magicNumber? at hnumber
  split at hnumber
  · cases hnumber
  · have hsplits := Pattern.splits_of_mem_all (List.mem_of_find?_eq_some hnumber)
    exact column_le_of_splits hsplits (by decide)

/-- The detectors do not share a name that is one of `names`. -/
def Apart (names : List String) (d e : Detector) : Prop := d.rule ∈ names → d.rule ≠ e.rule

theorem finding?_eq_some {d : Detector} {number : ℕ} {f : Finding} (h : d.finding? number line = some f) :
    ∃ column message, d.locate line = .ok (some column) ∧
      f = ⟨number, column, message, d.severity, d.rule, d.category⟩ := by
  unfold finding? at h
  split at h
  · next column message hlocate _ => exact ⟨column, message, hlocate, (Option.some.inj h).symm⟩
  · cases h

end Detector

namespace Finding

/-- The findings are not both of one rule, if that is one of `names`, and about one line. -/
def Apart (names : List String) (f g : Finding) : Prop :=
  f.rule ∈ names → f.rule = g.rule → f.line ≠ g.line

/-- The finding points to a line of the text, and there to a character or, if its rule is none of `builtIn`,
behind the last. -/
structure PointsInto (f : Finding) (builtIn : List String) (text : List Char) : Prop where
  line_pos : 1 ≤ f.line
  line_le : f.line ≤ (Text.lines text).length
  column_pos : 1 ≤ f.column
  column_le : ∀ line, (Text.lines text)[f.line - 1]? = some line → f.column ≤ line.length + 1
  column_le_of_builtIn : f.rule ∈ builtIn → ∀ line, (Text.lines text)[f.line - 1]? = some line →
    f.column ≤ line.length

/-- The finding has one of the severities and one of the enabled categories. -/
structure IsFiled (f : Finding) (enabled : Category → Bool) : Prop where
  severity : f.severity ∈ Severity.all.map Severity.name
  category : ∃ category, enabled category = true ∧ f.category = category.name

end Finding

/-! ## The rules that are always there -/

namespace Rule

theorem pointsWithin_securityRules : ∀ d ∈ securityRules, d.PointsWithin 0 := by
  unfold securityRules
  simp only [List.forall_mem_cons]
  exact ⟨.ofPatterns (by decide), .ofPatterns (by decide), .ofPatterns (by decide),
    .ofPatterns (by decide), List.forall_mem_nil _⟩

theorem pointsWithin_performanceRules : ∀ d ∈ performanceRules, d.PointsWithin 0 := by
  unfold performanceRules
  simp only [List.forall_mem_cons]
  exact ⟨.ofPatterns (by decide), .ofPatterns (by decide), .ofPatterns (by decide),
    .ofPatterns (by decide), .ofPatterns (by decide), .ofPatterns (by decide), .ofPatterns (by decide),
    .ofPatterns (by decide), .ofLargeLiterals (Int.natCast_nonneg _), List.forall_mem_nil _⟩

theorem pointsWithin_styleRules : ∀ d ∈ styleRules, d.PointsWithin 0 := by
  unfold styleRules
  simp only [List.forall_mem_cons]
  exact ⟨.ofPatterns (by decide), .ofPatterns (by decide), .ofPatterns (by decide),
    .ofPatterns (by decide), .ofMagicNumbers, List.forall_mem_nil _⟩

/-- What the rules that are always there report is rated and filed as the findings of their category are. -/
theorem rated_table (category : Category) : ∀ d ∈ Catalog.standard.table category,
    d.severity ∈ Severity.all.map Severity.name ∧ d.category = category.name := by
  cases category <;> decide

theorem customRule_notMem_ruleNames : "custom-rule" ∉ Catalog.standard.ruleNames := by decide

theorem eq_customDetector_of_accepted? {rule : Value} {d : Detector} (h : accepted? rule = some d) :
    ∃ source p, d = customDetector source p := by
  unfold accepted? at h
  split at h
  · next source =>
    split at h
    · next p _ => exact ⟨source, p, (Option.some.inj h).symm⟩
    · cases h
  · cases h

end Rule

namespace Catalog

variable {σ : Type} {c : Catalog} {rules : Value} {s : σ} {category : Category} {d : Detector}
  {lines : List (List Char)} {names : List String}

theorem mem_customTable (h : d ∈ customTable rules category) :
    category = .style ∧ ∃ source p, d = Rule.customDetector source p := by
  unfold customTable at h
  split at h
  · next hstyle =>
    obtain ⟨rule, -, hrule⟩ := List.mem_filterMap.1 h
    exact ⟨hstyle, Rule.eq_customDetector_of_accepted? hrule⟩
  · cases h

/-- What is known of each detector of a category: it reports columns of the line, or the one behind it if its
rule is none of `builtIn`, and it rates and files its findings as the category does. -/
structure Holds (builtIn : List String) (category : Category) (d : Detector) : Prop where
  within : d.PointsWithin 1
  withinLine : d.rule ∈ builtIn → d.PointsWithin 0
  severity : d.severity ∈ Severity.all.map Severity.name
  category : d.category = category.name

theorem holds_of_mem_table (hc : (standard.withCustom rules s).result = .ok c) (hd : d ∈ c.table category) :
    Holds standard.ruleNames category d := by
  rw [table_withCustom hc, List.mem_append] at hd
  rcases hd with hd | hd
  · have hwithin : d.PointsWithin 0 := by
      cases category with
      | security => exact Rule.pointsWithin_securityRules d hd
      | performance => exact Rule.pointsWithin_performanceRules d hd
      | style => exact Rule.pointsWithin_styleRules d hd
    obtain ⟨hseverity, hcategory⟩ := Rule.rated_table category d hd
    refine ⟨fun line column h => ?_, fun _ => hwithin, hseverity, hcategory⟩
    exact (hwithin line column h).imp_right Nat.le_succ_of_le
  · obtain ⟨rfl, source, p, rfl⟩ := mem_customTable hd
    refine ⟨.ofPatterns fun _ _ => Nat.le_add_left 1 _, fun hname => ?_, ?_, rfl⟩
    · exact absurd hname Rule.customRule_notMem_ruleNames
    · show "warning" ∈ Severity.all.map Severity.name
      decide

/-! ## One finding a line -/

theorem rule_of_mem_byLine {detectors : List Detector} {f : Finding} (h : f ∈ byLine detectors lines) :
    ∃ d ∈ detectors, f.rule = d.rule := by
  rw [← analyzeTable_eq_byLine] at h
  obtain ⟨d, hd, -, _, _, -, hf⟩ := mem_analyzeTable_iff.1 h
  exact ⟨d, hd, Detector.finding?_rule hf⟩

theorem pairwise_onLine {detectors : List Detector} (h : detectors.Pairwise (Detector.Apart names)) (number : ℕ)
    (line : List Char) : (onLine detectors number line).Pairwise (Finding.Apart names) := by
  unfold onLine
  rw [List.pairwise_filterMap]
  refine h.imp fun {d e} happart f hf g hg hname hrule => ?_
  rw [Detector.finding?_rule hf] at hname hrule
  rw [Detector.finding?_rule hg] at hrule
  exact absurd hrule (happart hname)

theorem pairwise_byLine {detectors : List Detector} (h : detectors.Pairwise (Detector.Apart names)) :
    (byLine detectors lines).Pairwise (Finding.Apart names) := by
  unfold byLine
  rw [List.pairwise_flatMap]
  refine ⟨fun numbered _ => pairwise_onLine (h.filter _) _ _, ?_⟩
  -- lines with different numbers have nothing in common
  have hnumbers : (lines.zipIdx 1).Pairwise fun p q => p.2 ≠ q.2 := by
    rw [← List.pairwise_map (f := Prod.snd) (R := (· ≠ ·)), List.zipIdx_map_snd]
    exact List.nodup_range'
  refine hnumbers.imp fun {p q} hne f hf g hg _ _ => ?_
  rw [line_of_mem_onLine hf, line_of_mem_onLine hg]
  exact hne

theorem pairwise_flatMap_byLine {tables : Category → List Detector} {categories : List Category}
    (h : (categories.flatMap tables).Pairwise (Detector.Apart names)) :
    (categories.flatMap fun category => byLine (tables category) lines).Pairwise (Finding.Apart names) := by
  rw [List.pairwise_flatMap] at h ⊢
  refine ⟨fun category hcategory => pairwise_byLine (h.1 category hcategory), ?_⟩
  refine h.2.imp fun {first second} happart f hf g hg hname hrule => ?_
  obtain ⟨d, hd, hfd⟩ := rule_of_mem_byLine hf
  obtain ⟨e, he, hge⟩ := rule_of_mem_byLine hg
  rw [hfd] at hname
  exact absurd (by rw [← hfd, hrule, hge]) (happart d hd e he hname)

/-- The name of a rule that is always there is the name of one detector only. -/
theorem pairwise_tables (hc : (standard.withCustom rules s).result = .ok c) :
    (Category.all.flatMap c.table).Pairwise (Detector.Apart standard.ruleNames) := by
  have htables : Category.all.flatMap c.table =
      Category.all.flatMap standard.table ++ customTable rules .style := by
    simp [Category.all, table_withCustom hc, customTable]
  have hcustom : ∀ e ∈ customTable rules .style, e.rule ∉ standard.ruleNames := by
    intro e he
    obtain ⟨-, source, p, rfl⟩ := mem_customTable he
    exact Rule.customRule_notMem_ruleNames
  rw [htables, List.pairwise_append]
  refine ⟨?_, ?_, ?_⟩
  · refine (List.pairwise_map.1 nodup_rules).imp ?_
    exact fun hne _ => hne
  · exact List.pairwise_of_forall_mem_list fun d hd e _ hname => absurd hname (hcustom d hd)
  · intro d _ e he hname hsame
    exact hcustom e he (hsame ▸ hname)

theorem pairwise_findings (hc : (standard.withCustom rules s).result = .ok c) (enabled : Category → Bool)
    (text : List Char) : (c.findings enabled text).Pairwise (Finding.Apart standard.ruleNames) := by
  unfold findings
  split
  · exact List.Pairwise.nil
  · simp only [analyzeTable_eq_byLine]
    refine pairwise_flatMap_byLine ((pairwise_tables hc).sublist ?_)
    exact List.filter_sublist.flatMap _

/-! ## Places of findings -/

theorem pointsInto_of_mem_findings (hc : (standard.withCustom rules s).result = .ok c)
    {enabled : Category → Bool} {text : List Char} {f : Finding} (hf : f ∈ c.findings enabled text) :
    f.PointsInto standard.ruleNames text ∧ f.IsFiled enabled := by
  obtain ⟨-, category, henabled, hf⟩ := mem_findings_iff.1 hf
  obtain ⟨d, hd, -, i, line, hline, hf⟩ := mem_analyzeTable_iff.1 hf
  obtain ⟨column, message, hlocate, rfl⟩ := Detector.finding?_eq_some hf
  have hholds := holds_of_mem_table hc hd
  have hi : i < (Text.lines text).length := (List.getElem?_eq_some_iff.1 hline).1
  refine ⟨⟨Nat.le_add_left 1 i, hi, (hholds.within line column hlocate).1, ?_, ?_⟩,
    ⟨hholds.severity, category, henabled, hholds.category⟩⟩
  · intro line' hline'
    obtain rfl := Option.some.inj (hline.symm.trans hline')
    exact (hholds.within line column hlocate).2
  · intro hname line' hline'
    obtain rfl := Option.some.inj (hline.symm.trans hline')
    exact (hholds.withinLine hname line column hlocate).2

/-- Whatever the text, the enabled categories and the custom rules, an analysis by the standard catalog gives
findings that point into the text and have declared severities and categories, and of which no two are about
one line and of one rule that is always there. -/
theorem findings_pointInto {τ : Type} (hc : (standard.withCustom rules s).result = .ok c)
    (enabled : Category → Bool) (file : String) (text : List Char) (t : τ) :
    ∃ findings, (c.analyze enabled file text t).result = .ok findings ∧
      (∀ f ∈ findings, f.PointsInto standard.ruleNames text ∧ f.IsFiled enabled) ∧
      findings.Pairwise (Finding.Apart standard.ruleNames) :=
  ⟨c.findings enabled text, result_analyze c enabled file text t, fun _ => pointsInto_of_mem_findings hc,
    pairwise_findings hc enabled text⟩

/-- The custom rule `$` matches nothing at all at the end of a line, so that its finding points behind the
last character; the rule that is always there points to the first. -/
theorem findings_pointInto_of_lineEnd :
    let c := standard.addStyle [Rule.customDetector "$" (.anchor .lastLineEnd)]
    let text := ['v', 'a', 'r', ' ', 'a']
    let enabled : Category → Bool := fun category => category = .style
    (standard.withCustom (.list [.string "$"]) ()).result = .ok c ∧
      ∃ findings, (c.analyze enabled "a.js" text ()).result = .ok findings ∧
        ((∀ f ∈ findings, f.PointsInto standard.ruleNames text ∧ f.IsFiled enabled) ∧
          findings.Pairwise (Finding.Apart standard.ruleNames)) ∧
        findings.map (fun f => (f.line, f.column, f.rule)) =
          [(1, 1, "prefer-let-const"), (1, 6, "custom-rule")] := by
  intro c text enabled
  have hc : (standard.withCustom (.list [.string "$"]) ()).result = .ok c := rfl
  obtain ⟨findings, hfindings, hplaces⟩ := findings_pointInto hc enabled "a.js" text ()
  refine ⟨hc, findings, hfindings, hplaces, ?_⟩
  have hsame : findings = c.findings enabled text :=
    Except.ok.inj (hfindings.symm.trans (result_analyze c enabled "a.js" text ()))
  have hlines : c.findings enabled text = byLine c.style [text] := by
    show analyzeTable c.style [text] ++ [] = _
    rw [List.append_nil, analyzeTable_eq_byLine]
  rw [hsame, hlines]
  rfl

end Catalog

end CodeReview
