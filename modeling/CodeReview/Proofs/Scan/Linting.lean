/-
What a linter can do to a scan. What its program comes to can be used, unless it ran to its end and wrote JSON
that is no report (`returns_issuesAfter_iff`). A report may be of any shape but where issues are looked for, in
the messages and their rules (`IsReport`). The issues are warnings and errors of the known categories
(`isRated_of_issuesAfter`), and a scan puts them before what the rules find (`lint_spares_scan`).
-/
import CodeReview.Proofs.Metrics.Bounds
import CodeReview.Proofs.Rule.Analysis
import CodeReview.Proofs.Scan.Admission

namespace CodeReview

open Result

namespace Linter

variable {message messages report : Json} {issue : Issue} {issues : List Issue} {output : String}

/-! ## Shapes -/

/-- A message that an issue can be made of: an object whose rule is a text, is empty or is not given. -/
def IsMessage : Json → Prop
  | .object members => ∀ rule, Json.lookup "ruleId" members = some rule →
      rule.isEmpty = true ∨ ∃ name, rule = .string name
  | _ => False

/-- Messages that issues can be made of. An empty object or text is as good as none. -/
def AreMessages : Json → Prop
  | .array items => ∀ message ∈ items, IsMessage message
  | .object members => members = []
  | .string s => s = ""
  | _ => False

/-- What is said of one file, and issues can be made of. What is no object or has no messages says nothing. -/
def IsFileReport : Json → Prop
  | .object members => ∀ messages, Json.lookup "messages" members = some messages → AreMessages messages
  | _ => True

/-- A report that issues can be made of. What is no array says nothing. -/
def IsReport : Json → Prop
  | .array files => ∀ file ∈ files, IsFileReport file
  | _ => True

theorem returns_issueOf_iff : Returns (issueOf message) ↔ IsMessage message := by
  cases message with
  | object members =>
    unfold issueOf given IsMessage
    dsimp only
    cases hrule : Json.lookup "ruleId" members with
    | none => exact iff_of_true (returns_ok _) nofun
    | some rule =>
      dsimp only
      split_ifs with hempty
      · exact iff_of_true (returns_ok _) fun r hr => .inl (Option.some.inj hr ▸ hempty)
      · -- a rule that is not empty is looked up as it is, and only a text can be
        cases rule with
        | string name => exact iff_of_true (returns_ok _) fun r hr => .inr ⟨name, (Option.some.inj hr).symm⟩
        | _ =>
          refine iff_of_false (not_returns_error _) fun h => ?_
          rcases h _ rfl with h | ⟨name, h⟩
          · exact hempty h
          · cases h
  | _ => exact iff_of_false (not_returns_error _) id

theorem returns_issuesOf_iff : Returns (issuesOf messages) ↔ AreMessages messages := by
  cases messages with
  | array items =>
    unfold issuesOf AreMessages
    simp only [returns_mapM_iff, returns_issueOf_iff]
  | object members =>
    cases members with
    | nil => exact iff_of_true (returns_ok _) rfl
    | cons first members => exact iff_of_false (not_returns_error _) (List.cons_ne_nil _ _)
  | string s =>
    unfold issuesOf AreMessages
    dsimp only
    split_ifs with hempty
    · exact iff_of_true (returns_ok _) (String.isEmpty_iff.1 hempty)
    · exact iff_of_false (not_returns_error _) fun h => hempty (String.isEmpty_iff.2 h)
  | _ => exact iff_of_false (not_returns_error _) id

theorem returns_fileIssues_iff : Returns (fileIssues report) ↔ IsFileReport report := by
  cases report with
  | object members =>
    unfold fileIssues IsFileReport
    dsimp only
    cases hmessages : Json.lookup "messages" members with
    | none => exact iff_of_true (returns_ok _) nofun
    | some messages =>
      refine returns_issuesOf_iff.trans ⟨fun h _ hm => Option.some.inj hm ▸ h, fun h => h messages rfl⟩
  | _ => exact iff_of_true (returns_ok _) trivial

theorem returns_reportIssues_iff : Returns (reportIssues report) ↔ IsReport report := by
  cases report with
  | array files =>
    unfold reportIssues IsReport
    simp only [← returns_fileIssues_iff]
    exact returns_map_iff.trans returns_mapM_iff
  | _ => exact iff_of_true (returns_ok _) trivial

/-! ## What is found -/

/-- The severity and the category are among those that linters report. -/
def IsRated (issue : Issue) : Prop :=
  issue.severity ∈ ["error", "warning"] ∧ issue.category ∈ ["security", "performance", "style"]

theorem name_severityOf_mem (level : Json) : (severityOf level).name ∈ ["error", "warning"] := by
  unfold severityOf
  split
  · split_ifs <;> decide
  · split_ifs <;> decide
  · decide

theorem isRated_of_issueOf (h : issueOf message = .ok issue) : IsRated issue := by
  have hcategory (category : Category) : category.name ∈ ["security", "performance", "style"] := by
    cases category <;> decide
  unfold issueOf at h
  split at h
  · split at h
    · obtain rfl := Except.ok.inj h
      exact ⟨name_severityOf_mem _, hcategory _⟩
    · cases h
  · cases h

theorem isRated_of_nil (h : (.ok [] : Except Fault (List Issue)) = .ok issues) :
    ∀ issue ∈ issues, IsRated issue := by
  obtain rfl := Except.ok.inj h
  exact List.forall_mem_nil _

theorem isRated_of_issuesOf (h : issuesOf messages = .ok issues) : ∀ issue ∈ issues, IsRated issue := by
  unfold issuesOf at h
  split at h
  · intro issue hissue
    obtain ⟨message, -, hmessage⟩ := exists_of_mem_mapM h hissue
    exact isRated_of_issueOf hmessage
  · exact isRated_of_nil h
  · cases h
  · split at h
    · exact isRated_of_nil h
    · cases h
  · cases h

theorem isRated_of_fileIssues (h : fileIssues report = .ok issues) : ∀ issue ∈ issues, IsRated issue := by
  unfold fileIssues at h
  split at h
  · split at h
    · exact isRated_of_issuesOf h
    · exact isRated_of_nil h
  · exact isRated_of_nil h

theorem isRated_of_reportIssues (h : reportIssues report = .ok issues) : ∀ issue ∈ issues, IsRated issue := by
  unfold reportIssues at h
  split at h
  · obtain ⟨found, hfound, hissues⟩ := bind_eq_ok_iff.1 h
    obtain rfl := Except.ok.inj hissues
    intro issue hissue
    obtain ⟨inFile, hinFile, hissue⟩ := List.mem_flatten.1 hissue
    obtain ⟨file, -, hfile⟩ := exists_of_mem_mapM hfound hinFile
    exact isRated_of_fileIssues hfile issue hissue
  · exact isRated_of_nil h

/-! ## What is written -/

/-- What a program wrote can be read: it is a report, or no JSON text. -/
inductive IsReadable (output : String) : Prop
  | report {report : Json} (read : Json.read output.toList = .ok report) (shape : IsReport report) :
    IsReadable output
  | malformed (read : Json.read output.toList = .error .malformed) : IsReadable output

theorem isReadable_iff_of_read (h : Json.read output.toList = .ok report) :
    IsReadable output ↔ IsReport report := by
  refine ⟨fun hreadable => ?_, .report h⟩
  cases hreadable with
  | report read shape => exact Except.ok.inj (read.symm.trans h) ▸ shape
  | malformed read => cases read.symm.trans h

/-- The issues in what a program wrote. -/
def issuesIn (output : String) : Except Fault (List Issue) :=
  match Json.read output.toList with
  | .ok report => reportIssues report
  | .error .malformed => .ok []
  | .error .integerTooLong => .error (.invalid "Exceeds the limit for integer string conversion")
  | .error .nestedTooDeep => .error .nestedTooDeep

theorem readReport_result {σ : Type} (output : String) (s : σ) :
    (readReport output s).result = issuesIn output := by
  by_cases hempty : output.isEmpty = true
  · obtain rfl := String.isEmpty_iff.1 hempty
    rfl
  · unfold readReport issuesIn
    rw [if_neg hempty]
    cases Json.read output.toList with
    | ok report => rfl
    | error fault => cases fault <;> rfl

theorem returns_issuesIn_iff : Returns (issuesIn output) ↔ IsReadable output := by
  unfold issuesIn
  cases hread : Json.read output.toList with
  | ok report => exact returns_reportIssues_iff.trans (isReadable_iff_of_read hread).symm
  | error fault =>
    cases fault with
    | malformed => exact iff_of_true (returns_ok _) (.malformed hread)
    | _ =>
      refine iff_of_false (not_returns_error _) fun h => ?_
      cases h with
      | report read shape => cases read.symm.trans hread
      | malformed read => cases read.symm.trans hread

theorem isRated_of_issuesIn (h : issuesIn output = .ok issues) : ∀ issue ∈ issues, IsRated issue := by
  unfold issuesIn at h
  split at h
  · exact isRated_of_reportIssues h
  · exact isRated_of_nil h
  · cases h
  · cases h

/-! ## Running a linter -/

variable {reply : Reply}

/-- What a program came to can be used: if it ran to its end, it wrote what can be read. -/
def IsUsable (reply : Reply) : Prop :=
  ∀ status output errors, reply = .exited status output errors → status = 0 ∨ status = 1 →
    IsReadable (output.getD "")

/-- The issues that come of what a program came to. -/
def issuesAfter : Reply → Except Fault (List Issue)
  | .exited status output _ => if status = 0 ∨ status = 1 then issuesIn (output.getD "") else .ok []
  | _ => .ok []

theorem lint_result (linter : Linter) (text file : String) (shell : Shell) :
    (linter.lint text file shell).result = issuesAfter (shell.reply (linter.commandFor text file)) := by
  have hrun : (Shell.run (linter.commandFor text file) shell).result =
      .ok (shell.reply (linter.commandFor text file)) := rfl
  unfold lint
  rw [Act.result_bind, hrun]
  cases shell.reply (linter.commandFor text file) with
  | exited status output errors =>
    unfold issuesAfter
    simp only [Bool.or_eq_true, decide_eq_true_eq]
    split_ifs with hstatus
    · exact readReport_result ..
    · rfl
  | _ => rfl

theorem returns_issuesAfter_iff : Returns (issuesAfter reply) ↔ IsUsable reply := by
  cases reply with
  | exited status output errors =>
    unfold issuesAfter IsUsable
    dsimp only
    split_ifs with hstatus
    · rw [returns_issuesIn_iff]
      constructor
      · rintro h _ _ _ heq -
        cases heq
        exact h
      · exact fun h => h status output errors rfl hstatus
    · refine iff_of_true (returns_ok _) ?_
      rintro _ _ _ heq hended
      cases heq
      exact absurd hended hstatus
  | _ => exact iff_of_true (returns_ok _) nofun

theorem isRated_of_issuesAfter (h : issuesAfter reply = .ok issues) : ∀ issue ∈ issues, IsRated issue := by
  unfold issuesAfter at h
  split at h
  · split_ifs at h
    · exact isRated_of_issuesIn h
    · exact isRated_of_nil h
  · exact isRated_of_nil h

end Linter

namespace Scanner

variable {s : Scanner} {linter : Linter} {text file : String} {size : Option Amount} {enabled : List Category}
  {shell : Shell}

/-- The scanner looks into a text: it is not switched off and does not leave the file out, and the text is
not too large. -/
structure Admits (s : Scanner) (text file : String) (size : Option Amount) : Prop where
  on : s.isOff = false
  kept : s.leavesOut file = .ok false
  fits : s.isOversized (size.getD (.int (Text.encodedSize text.toList))) = .ok false

theorem Admits.scan_result {useLinter : Bool} (h : s.Admits text file size) :
    (s.scan text file size useLinter shell).result = (s.examine text file useLinter shell).result := by
  have hsize : s.scan text file size useLinter =
      s.scan text file (some (size.getD (.int (Text.encodedSize text.toList)))) useLinter := by
    cases size <;> rfl
  rw [hsize, scan_result_of_not_isOff h.on, h.kept, h.fits]

/-- A text that is examined with a linter has what the linter finds, then what the rules find, and its
metrics. -/
theorem examine_result (hlinter : s.linter = some linter)
    (henabled : s.config.enabledCategories = .ok enabled) :
    (s.examine text file true shell).result = do
      let issues ← (linter.lint text file shell).result
      let metrics ← Metrics.ofText text.toList
      let findings := s.catalog.findings enabled.contains text.toList
      return { file, issues := issues ++ findings.map Finding.toIssue, metrics } := by
  unfold examine lintIssues
  rw [hlinter, henabled, Act.result_bind]
  dsimp only
  rw [if_pos rfl]
  cases (linter.lint text file shell).result with
  | error fault => rfl
  | ok issues =>
    -- the rules and the metrics do not ask the shell, so the state that the linter left does not matter
    dsimp only
    rw [Act.result_bind, Act.result_ofExcept]
    dsimp only
    rw [Act.result_bind, Catalog.result_analyze]
    dsimp only
    rw [Act.result_bind, Act.result_ofExcept]
    cases Metrics.ofText text.toList <;> rfl

end Scanner

namespace Linter

end Linter

end CodeReview
