/-
Scans that are made twice. What a scan comes to depends on the shell only for how commands are answered,
and a scan leaves that as it is (`steady_scan`); a scanner comes of a configuration in the same way
wherever it is made (`steady_ofConfig`). So a file whose text was scanned, and not left out, has the same
result when it is scanned by its path (`scanFile?_of_scan`).
-/
import CodeReview.Proofs.Act
import CodeReview.Proofs.Scan.Admission

namespace CodeReview

/-! ## Commands -/

/-- How a shell answers commands, whichever were given to it before. -/
def Shell.Answers (reply : Command → Reply) (shell : Shell) : Prop := shell.reply = reply

variable {reply : Command → Reply}

theorem Shell.steady_run (command : Command) :
    Act.Steady (Answers reply) (Shell.run command) := by
  refine ⟨.ok (reply command), fun shell hshell => ?_⟩
  rw [← hshell]
  exact ⟨rfl, rfl⟩

namespace Linter

theorem steady_readReport {σ : Type} {P : σ → Prop} (output : String) :
    Act.Steady P (readReport output : Act σ (List Issue)) := by
  unfold readReport
  split
  · exact .ofExcept _
  · exact .bind (.note _) fun _ => .pure _
  · exact .fail _
  · exact .fail _

theorem steady_lint (linter : Linter) (text file : String) :
    Act.Steady (Shell.Answers reply) (linter.lint text file) := by
  unfold lint
  refine .bind (Shell.steady_run _) fun answer => ?_
  split
  · split
    · exact steady_readReport _
    · exact .bind (.note _) fun _ => .pure _
  · exact .bind (.note _) fun _ => .pure _

end Linter

/-! ## Making a scanner -/

section Making

variable {σ : Type} {P : σ → Prop}

theorem Rule.steady_customRule (rule : Value) :
    Act.Steady P (customRule rule : Act σ (Option Detector)) := by
  unfold customRule
  split
  · split
    · exact .pure _
    · split
      · exact .fail _
      · exact .bind (.note _) fun _ => .pure _
  · exact .bind (.note _) fun _ => .pure _

theorem Rule.steady_customRules (rules : List Value) :
    Act.Steady P (customRules rules : Act σ (List Detector)) := by
  induction rules with
  | nil => exact .pure _
  | cons rule rules ih =>
    unfold customRules
    exact .bind (steady_customRule rule) fun _ => .bind ih fun _ => .pure _

theorem Catalog.steady_withCustom (c : Catalog) (rules : Value) :
    Act.Steady P (c.withCustom rules : Act σ Catalog) := by
  unfold withCustom
  split
  · exact .fail _
  · exact .bind (Rule.steady_customRules _) fun _ => .pure _

theorem Scanner.steady_ofConfig (config : Config) (workingDirectory : String) :
    Act.Steady P (ofConfig config workingDirectory : Act σ Scanner) := by
  unfold ofConfig
  exact .bind (Catalog.steady_withCustom _ _) fun _ => .bind (.ofExcept _) fun _ => .pure _

/-- Making a scanner changes nothing. -/
theorem Scanner.state_ofConfig (config : Config) (workingDirectory : String) (s : σ) :
    (ofConfig config workingDirectory s : Outcome σ Scanner).state = s :=
  (steady_ofConfig (P := (· = s)) config workingDirectory).preserves s rfl

end Making

/-! ## Scanning -/

namespace Scanner

variable {s : Scanner} {disk : Disk} {path text : String} {useLinter : Bool} {shell shell' : Shell}
  {bytes : Text.Bytes} {chars : List Char} {r : ScanResult}

theorem steady_examine (s : Scanner) (text file : String) (useLinter : Bool) :
    Act.Steady (Shell.Answers reply) (s.examine text file useLinter) := by
  have hlint : Act.Steady (Shell.Answers reply) (s.lintIssues text file useLinter) := by
    unfold lintIssues
    split
    · split
      · exact Linter.steady_lint _ _ _
      · exact .pure _
    · exact .pure _
  unfold examine
  refine .bind hlint fun _ => .bind (.ofExcept _) fun _ => .bind ?_ fun _ => ?_
  · unfold Catalog.analyze
    exact ⟨_, fun shell hshell => ⟨rfl, hshell⟩⟩
  · exact .bind (.ofExcept _) fun _ => .pure _

theorem steady_scan (s : Scanner) (text file : String) (size : Option Amount) (useLinter : Bool) :
    Act.Steady (Shell.Answers reply) (s.scan text file size useLinter) := by
  unfold scan
  split
  · exact .bind (.note _) fun _ => .pure _
  refine .bind (.ofExcept _) fun out => ?_
  split
  · exact .bind (.note _) fun _ => .pure _
  refine .bind (.ofExcept _) fun large => ?_
  split
  · exact .ofExcept _
  · exact steady_examine _ _ _ _

/-- What was scanned and not left out was admitted by its path. -/
theorem leavesOut_of_scan {size : Amount}
    (hscan : (s.scan text path (some size) useLinter shell).result = .ok r)
    (hexcluded : r.excluded = false) : s.isOff = false ∧ s.leavesOut path = .ok false := by
  cases hoff : s.isOff with
  | true =>
    rw [scan_result_of_isOff hoff] at hscan
    obtain rfl := Except.ok.inj hscan
    cases hexcluded
  | false =>
    rw [scan_result_of_not_isOff hoff] at hscan
    refine ⟨rfl, ?_⟩
    cases hout : s.leavesOut path with
    | error fault =>
      rw [hout] at hscan
      cases hscan
    | ok out =>
      cases out with
      | false => rfl
      | true =>
        rw [hout] at hscan
        obtain rfl := Except.ok.inj hscan
        cases hexcluded

/-- The file that holds a text has the result of the text, whenever commands are answered the same. -/
theorem scanFile?_of_scan (hfile : disk.find path = .ok (.file bytes))
    (hutf8 : Text.decode bytes = .ok chars)
    (hscan : (s.scan (String.ofList (Text.normalizeNewlines chars)) path (some (.int bytes.length))
      useLinter shell).result = .ok r)
    (hexcluded : r.excluded = false) (hreply : shell'.reply = shell.reply) :
    (s.scanFile? disk path useLinter shell').result = .ok (some r) := by
  obtain ⟨hoff, hout⟩ := leavesOut_of_scan hscan hexcluded
  have hagain : (s.scan (String.ofList (Text.normalizeNewlines chars)) path
      (some (.int bytes.length)) useLinter shell').result = .ok r := by
    rw [← hscan]
    have hsteady : Act.Steady (Shell.Answers shell.reply) _ := steady_scan s
      (String.ofList (Text.normalizeNewlines chars)) path (some (.int bytes.length)) useLinter
    exact hsteady.result_eq hreply rfl
  have hfound : (s.scanFile disk path useLinter shell').result = .ok r := by
    rw [scanFile_result hfile hutf8, hout]
    have hcases := hagain
    rw [scan_result_of_not_isOff hoff, hout] at hcases
    cases hlarge : s.isOversized (.int bytes.length) with
    | error fault =>
      rw [hlarge] at hcases
      cases hcases
    | ok large =>
      cases large with
      | true =>
        rw [hlarge] at hcases
        exact hcases
      | false => exact hagain
  rw [scanFile?_result, hfound]
  rfl

end Scanner

end CodeReview
