/-
Rounds of fixes. A text is analyzed and fixed for what was found. Fixes go line by line and no fix gives
one of the settled rules something to be about, so once the rule's own fix has been made the rule is done
with the line (`isDone_foldl_mendLine`); in the text that comes out such rules find something in comments
only (`apply_settles`).
-/
import CodeReview.Proofs.Fix.Lines
import CodeReview.Proofs.Fix.Settling
import CodeReview.Proofs.Rule.Analysis

namespace CodeReview.Fix

open Rule

variable {line text : List Char} {rule other : String} {about : List Char → Prop} {rules : List String}

/-! ## One line -/

/-- A rule is done with a line that is a comment or that the rule is not about. -/
def IsDone (about : List Char → Prop) (line : List Char) : Prop := isComment line = true ∨ ¬about line

theorem isDone_mendLine_self (hrule : (rule, about) ∈ settledRules) (line : List Char) :
    IsDone about (mendLine line rule) := by
  cases hcomment : isComment line with
  | true =>
    rw [mendLine_of_isComment hcomment]
    exact .inl hcomment
  | false =>
    obtain ⟨fixer, hfixer, hsettles⟩ := settles_fixer hrule
    rw [mendLine_eq_fixer hcomment hfixer]
    exact hsettles line

/-- A rule that is done with a line stays so, whatever the line is mended for. -/
theorem IsDone.mendLine (h : IsDone about line) (hrule : (rule, about) ∈ settledRules) (other : String) :
    IsDone about (mendLine line other) := by
  cases hcomment : isComment line with
  | true =>
    rw [mendLine_of_isComment hcomment]
    exact .inl hcomment
  | false =>
    cases hfixer : fixer? other with
    | none => rwa [mendLine_of_fixer?_eq_none hfixer]
    | some fixer =>
      rw [mendLine_eq_fixer hcomment hfixer]
      refine (keeps_fixer hfixer line).imp_right fun hkeeps habout => ?_
      rcases h with h | h
      · exact Bool.false_ne_true (hcomment.symm.trans h)
      · exact h (hkeeps.of_mem hrule habout)

theorem IsDone.foldl_mendLine (h : IsDone about line) (hrule : (rule, about) ∈ settledRules)
    (rules : List String) : IsDone about (rules.foldl Fix.mendLine line) := by
  induction rules generalizing line with
  | nil => exact h
  | cons other rules ih => exact ih (h.mendLine hrule other)

/-- A rule is done with a line that has been mended for it among others. -/
theorem isDone_foldl_mendLine (hrule : (rule, about) ∈ settledRules) (hmem : rule ∈ rules)
    (line : List Char) : IsDone about (rules.foldl mendLine line) := by
  induction rules generalizing line with
  | nil => cases hmem
  | cons other rules ih =>
    rcases List.mem_cons.1 hmem with rfl | hmem
    · exact (isDone_mendLine_self hrule line).foldl_mendLine hrule rules
    · exact ih hmem (mendLine line other)

/-! ## What is found -/

theorem eq_of_rule_eq {d d' : Detector} {category category' : Category}
    (hd : d ∈ Catalog.standard.table category) (hd' : d' ∈ Catalog.standard.table category')
    (h : d.rule = d'.rule) : d = d' := by
  have hall {d : Detector} {category : Category} (hd : d ∈ Catalog.standard.table category) :
      d ∈ Category.all.flatMap Catalog.standard.table :=
    List.mem_flatMap.2 ⟨category, by cases category <;> decide, hd⟩
  exact List.inj_on_of_nodup_map Catalog.nodup_rules (hall hd) (hall hd') h

/-- The detector of a settled rule looks at every line, and reports those that the rule is about. -/
theorem exists_detector (hrule : (rule, about) ∈ settledRules) : ∃ d ∈ styleRules, d.rule = rule ∧
    ∀ line, d.failsOn line = false ∧ ∀ number, (d.finding? number line).isSome = true ↔ about line := by
  have hspec {category severity message : String} {p : Pattern}
      (hp : ∀ line, (p.search line).isSome = true ↔ about line) (line : List Char) :
      (Detector.ofPatterns rule category severity message [p] []).failsOn line = false ∧ ∀ number,
        ((Detector.ofPatterns rule category severity message [p] []).finding? number line).isSome = true ↔
          about line := by
    obtain ⟨hsound, hfinding⟩ := Detector.ofPatterns_spec p line
    exact ⟨hsound, fun number => by rw [hfinding number, hp line]⟩
  rcases mem_settledRules_iff.1 hrule with ⟨rfl, rfl⟩ | ⟨rfl, rfl⟩ | ⟨rfl, rfl⟩ | ⟨rfl, rfl⟩
  · exact ⟨_, List.mem_cons_self, rfl, hspec fun _ => varPattern_isSome_iff⟩
  · exact ⟨_, List.mem_cons_of_mem _ List.mem_cons_self, rfl, hspec fun _ => looseEquality_isSome_iff⟩
  · exact ⟨_, List.mem_cons_of_mem _ (List.mem_cons_of_mem _ List.mem_cons_self), rfl,
      hspec fun _ => consolePattern_isSome_iff⟩
  · exact ⟨_, List.mem_cons_of_mem _ (List.mem_cons_of_mem _ (List.mem_cons_of_mem _ List.mem_cons_self)), rfl,
      hspec fun _ => debuggerPattern_isSome_iff⟩

/-- No settled rule is about the empty line. -/
theorem not_about_nil (hrule : (rule, about) ∈ settledRules) : ¬about [] := by
  rcases mem_settledRules_iff.1 hrule with ⟨-, rfl⟩ | ⟨-, rfl⟩ | ⟨-, rfl⟩ | ⟨-, rfl⟩
  · rintro ⟨indent, x, rest, hsplit, -⟩
    simp at hsplit
  · rintro ⟨before, sign, rest, hsplit, -⟩
    simp at hsplit
  · rintro ⟨before, method, gap, rest, hsplit, -⟩
    simp at hsplit
  · rintro ⟨indent, gap, semicolon, after, hsplit, -⟩
    simp at hsplit

/-- In a text the rule is reported exactly on the lines that it is about. -/
theorem mem_findings_rule_iff (hrule : (rule, about) ∈ settledRules) {i : ℕ} :
    (∃ f ∈ Catalog.standard.findings (fun _ => true) text, f.rule = rule ∧ f.line = i + 1) ↔
      text ≠ [] ∧ ∃ line, (Text.lines text)[i]? = some line ∧ about line := by
  obtain ⟨d, hd, rfl, hdetects⟩ := exists_detector hrule
  have hd : d ∈ Catalog.standard.table .style := hd
  constructor
  · rintro ⟨f, hf, hsame, hplace⟩
    obtain ⟨hsome, category, -, hf⟩ := Catalog.mem_findings_iff.1 hf
    obtain ⟨d', hd', -, j, line, hline, hfound⟩ := Catalog.mem_analyzeTable_iff.1 hf
    obtain rfl := eq_of_rule_eq hd' hd ((Detector.finding?_rule hfound).symm.trans hsame)
    obtain rfl := Nat.succ.inj ((Detector.finding?_line hfound).symm.trans hplace)
    exact ⟨hsome, line, hline, ((hdetects line).2 (j + 1)).1 (by rw [hfound]; rfl)⟩
  · rintro ⟨hsome, line, hline, habout⟩
    obtain ⟨f, hfound⟩ := Option.isSome_iff_exists.1 (((hdetects line).2 (i + 1)).2 habout)
    refine ⟨f, ?_, Detector.finding?_rule hfound, Detector.finding?_line hfound⟩
    exact Catalog.mem_findings_iff.2 ⟨hsome, .style, rfl, Catalog.mem_analyzeTable_iff.2
      ⟨d, hd, fun line _ => (hdetects line).1, i, line, hline, hfound⟩⟩

theorem mem_rulesAt_toIssue {found : List Finding} {i : ℕ} :
    rule ∈ rulesAt (found.map Finding.toIssue) i ↔ ∃ f ∈ found, f.rule = rule ∧ f.line = i + 1 := by
  unfold rulesAt
  simp only [List.mem_map, List.mem_filter, decide_eq_true_eq, exists_exists_and_eq_and, and_assoc]
  refine exists_congr fun f => and_congr_right fun _ => ?_
  have hnumber : numberOf? f.toIssue = some (f.line : ℤ) := rfl
  rw [hnumber, Option.some.injEq, and_comm]
  exact and_congr_right fun _ => by omega

/-! ## A round -/

/-- One round of fixes settles the rules about `var`, comparisons, the console and the debugger. A text can
always be analyzed and fixed for what was found, and when the text that comes out is analyzed these rules
have nothing to say but of lines that are comments. -/
theorem apply_settles {σ : Type} (file : String) (text : List Char) (s : σ) :
    ∃ found fixed count left,
      (Catalog.standard.analyze (fun _ => true) file text s).result = .ok found ∧
      apply text (found.map Finding.toIssue) = .ok (fixed, count) ∧
      (Catalog.standard.analyze (fun _ => true) file fixed s).result = .ok left ∧
      ∀ f ∈ left, f.rule ∈ ["prefer-let-const", "prefer-strict-equality", "no-console-statements",
          "no-debugger-statements"] →
        ∃ i line, f.line = i + 1 ∧ (Text.lines fixed)[i]? = some line ∧ isComment line = true := by
  obtain ⟨fixed, count, happly, hlines⟩ := lines_of_apply text
    ((Catalog.standard.findings (fun _ => true) text).map Finding.toIssue) fun issue hissue => by
      obtain ⟨f, -, rfl⟩ := List.mem_map.1 hissue
      rfl
  refine ⟨_, fixed, count, _, Catalog.result_analyze .., happly, Catalog.result_analyze .., fun f hf hname => ?_⟩
  obtain ⟨⟨rule, about⟩, hrule, hsame⟩ : ∃ p ∈ settledRules, p.1 = f.rule := List.mem_map.1 hname
  obtain ⟨-, _, -, hplace⟩ := Catalog.mem_findings_iff.1 hf
  obtain ⟨_, -, -, i, _, -, hfound⟩ := Catalog.mem_analyzeTable_iff.1 hplace
  have hline := Detector.finding?_line hfound
  obtain ⟨hsome, line, hfixed, habout⟩ :=
    (mem_findings_rule_iff hrule).1 ⟨f, hf, hsame.symm, hline⟩
  refine ⟨i, line, hline, hfixed, ?_⟩
  rw [hlines i] at hfixed
  obtain ⟨old, hold, rfl⟩ := Option.map_eq_some_iff.1 hfixed
  -- the rule is done with the line: it was reported and mended, or there was nothing to report
  have hdone : IsDone about
      ((rulesAt ((Catalog.standard.findings (fun _ => true) text).map Finding.toIssue) i).foldl mendLine old) := by
    by_cases hold' : text ≠ [] ∧ about old
    · refine isDone_foldl_mendLine hrule (mem_rulesAt_toIssue.2 ?_) old
      exact (mem_findings_rule_iff hrule).2 ⟨hold'.1, old, hold, hold'.2⟩
    · refine IsDone.foldl_mendLine (.inr fun habout => hold' ⟨?_, habout⟩) hrule _
      rintro rfl
      refine not_about_nil hrule ?_
      rwa [← List.mem_singleton.1 (List.mem_of_getElem? hold)]
  exact hdone.resolve_right (not_not_intro habout)

end CodeReview.Fix
