/-
Batches leave no trace. Every file of a workspace has the result that it has alone (`resultAt`), in the
order of the paths and whatever the size of the batches, and a file that cannot be scanned takes nothing
from the others. The totals of the results can always be computed, since the metrics of a text are in
range (`scanFile_totalled`).
-/
import CodeReview.Proofs.Metrics.Averages
import CodeReview.Proofs.Scan.Repeating

namespace CodeReview

open Result

namespace Scanner

variable {s : Scanner} {disk : Disk} {path text : String} {useLinter : Bool} {shell : Shell}
  {reply : Command → Reply} {r : ScanResult}

/-! ## One file -/

/-- What the scan of the file at a path comes to where commands are answered so; nothing, if the file
cannot be scanned. -/
def resultAt (s : Scanner) (disk : Disk) (useLinter : Bool) (reply : Command → Reply)
    (path : String) : Option ScanResult :=
  (s.scanFile disk path useLinter ⟨reply, []⟩).result.toOption

theorem steady_scanFile (s : Scanner) (disk : Disk) (path : String) (useLinter : Bool) :
    Act.Steady (Shell.Answers reply) (s.scanFile disk path useLinter) := by
  unfold scanFile
  refine .bind (.ofExcept _) fun out => ?_
  split
  · exact .pure _
  refine .bind (.ofExcept _) fun size => .bind (.ofExcept _) fun large => ?_
  split
  · exact .ofExcept _
  · exact .bind (.ofExcept _) fun text => steady_scan _ _ _ _ _

theorem steady_scanFile? (s : Scanner) (disk : Disk) (path : String) (useLinter : Bool) :
    Act.Steady (Shell.Answers reply) (s.scanFile? disk path useLinter) := by
  unfold scanFile?
  refine .bind (.attempt (steady_scanFile s disk path useLinter)) fun result => ?_
  split
  · exact .pure _
  · exact .bind (.note _) fun _ => .pure _

/-- A file has the same result in every shell that answers so. -/
theorem scanFile?_yields (hshell : shell.Answers reply) :
    Act.Yields (s.scanFile? disk path useLinter) shell (s.resultAt disk useLinter reply path)
      (Shell.Answers reply) := by
  constructor
  · unfold resultAt
    have hfresh : Shell.Answers reply ⟨reply, []⟩ := rfl
    rw [scanFile?_result, (steady_scanFile s disk path useLinter).result_eq hshell hfresh]
  · exact (steady_scanFile? s disk path useLinter).preserves shell hshell

/-! ## Many files -/

theorem scanBatch_yields (paths : List String) (hshell : shell.Answers reply) :
    Act.Yields (s.scanBatch disk useLinter paths) shell
      (paths.map (s.resultAt disk useLinter reply)) (Shell.Answers reply) := by
  induction paths generalizing shell with
  | nil => exact .pure hshell
  | cons path paths ih =>
    exact .bind (scanFile?_yields hshell) fun _ hnext => .bind (ih hnext) fun _ hlast => .pure hlast

theorem scanBatches_yields (batches : List (List String)) (hshell : shell.Answers reply) :
    Act.Yields (s.scanBatches disk useLinter batches) shell
      (counted (batches.flatten.map (s.resultAt disk useLinter reply))) (Shell.Answers reply) := by
  induction batches generalizing shell with
  | nil => exact .pure hshell
  | cons batch batches ih =>
    rw [List.flatten_cons, List.map_append, counted_append]
    exact .bind (scanBatch_yields batch hshell) fun _ hnext =>
      .bind (ih hnext) fun _ hlast => .pure hlast

theorem scanAll_result (paths : List String) : (s.scanAll disk paths useLinter shell).result =
    Workspace.ofResults (counted (paths.map (s.resultAt disk useLinter shell.reply))) 0 := by
  have hbatches : Act.Yields (s.scanBatches disk useLinter (batches (batchSize useLinter) paths)) shell _ _ :=
    scanBatches_yields _ (show shell.Answers shell.reply from rfl)
  rw [flatten_batches] at hbatches
  unfold scanAll
  rw [Act.result_bind, hbatches.result]
  rfl

/-! ## The totals -/

/-- A result that a total can be computed of: it is left out of the averages, or its metrics are in
range. -/
def Totalled (r : ScanResult) : Prop :=
  r.excluded = true ∨ r.oversized = true ∨ r.metrics.IsMeasured

theorem oversizedResult_totalled {size : Amount} (h : oversizedResult path size = .ok r) :
    Totalled r := by
  unfold oversizedResult at h
  obtain ⟨_, -, h⟩ := bind_eq_ok_iff.1 h
  obtain ⟨_, -, h⟩ := bind_eq_ok_iff.1 h
  obtain rfl := Except.ok.inj h
  exact .inr (.inl rfl)

theorem examine_totalled (h : (s.examine text path useLinter shell).result = .ok r) :
    Totalled r := by
  unfold examine at h
  obtain ⟨_, -, h⟩ := Act.result_bind_eq_ok.1 h
  obtain ⟨_, -, h⟩ := Act.result_bind_eq_ok.1 h
  obtain ⟨_, -, h⟩ := Act.result_bind_eq_ok.1 h
  obtain ⟨metrics, hmetrics, h⟩ := Act.result_bind_eq_ok.1 h
  obtain rfl := Except.ok.inj h
  exact .inr (.inr (Metrics.ofText_isMeasured hmetrics))

theorem scan_totalled {size : Amount}
    (h : (s.scan text path (some size) useLinter shell).result = .ok r) : Totalled r := by
  cases hoff : s.isOff with
  | true =>
    rw [scan_result_of_isOff hoff] at h
    obtain rfl := Except.ok.inj h
    exact .inl rfl
  | false =>
    rw [scan_result_of_not_isOff hoff] at h
    split at h
    · cases h
    · obtain rfl := Except.ok.inj h
      exact .inl rfl
    · cases h
    · exact oversizedResult_totalled h
    · exact examine_totalled h

theorem scanFile_totalled (h : (s.scanFile disk path useLinter shell).result = .ok r) :
    Totalled r := by
  unfold scanFile at h
  obtain ⟨out, -, h⟩ := Act.result_bind_eq_ok.1 h
  cases out with
  | true =>
    obtain rfl := Except.ok.inj h
    exact .inl rfl
  | false =>
    obtain ⟨_, -, h⟩ := Act.result_bind_eq_ok.1 h
    obtain ⟨large, -, h⟩ := Act.result_bind_eq_ok.1 h
    cases large with
    | true => exact oversizedResult_totalled h
    | false =>
      obtain ⟨_, -, h⟩ := Act.result_bind_eq_ok.1 h
      exact scan_totalled h

/-- The results of files can always be totalled. -/
theorem returns_ofResults (paths : List String) :
    Returns (Workspace.ofResults (counted (paths.map (s.resultAt disk useLinter reply))) 0) := by
  refine returns_bind_iff.2 ?_
  have hmeasured : ∀ m ∈ Workspace.measured (counted (paths.map (s.resultAt disk useLinter reply))),
      m.IsMeasured := by
    intro m hm
    unfold Workspace.measured at hm
    obtain ⟨r, hr, rfl⟩ := List.mem_map.1 hm
    obtain ⟨hcounted, hnormal⟩ := List.mem_filter.1 hr
    obtain ⟨hresult, hkept⟩ := mem_counted.1 hcounted
    obtain ⟨path, -, hscan⟩ := List.mem_map.1 hresult
    have hok : (s.scanFile disk path useLinter ⟨reply, []⟩).result = .ok r := by
      unfold resultAt at hscan
      cases hcase : (s.scanFile disk path useLinter ⟨reply, []⟩).result with
      | error fault =>
        rw [hcase] at hscan
        cases hscan
      | ok r' =>
        rw [hcase] at hscan
        exact congrArg Except.ok (Option.some.inj hscan)
    rcases scanFile_totalled hok with hexcluded | hoversized | hrange
    · rw [hkept] at hexcluded
      cases hexcluded
    · rw [hoversized] at hnormal
      cases hnormal
    · exact hrange
  obtain ⟨metrics, hmetrics⟩ := Workspace.returns_combine hmeasured
  exact ⟨metrics, hmetrics, returns_ok _⟩

/-! ## The whole -/

/-- Batching is invisible and faults stay local: whatever the paths and the size of the batches, a
workspace has the results that its files have alone, in order, but for those that cannot be scanned and
those that are left out, and the totals of these. So two lists of paths scanned together give what they
give one after the other, and a path whose scan fails may as well not be there. -/
theorem scanAll_eq_counted (s : Scanner) (disk : Disk) (useLinter : Bool) (shell : Shell) :
    (∀ path given, (s.scanFile? disk path useLinter ⟨shell.reply, given⟩).result =
      .ok (s.resultAt disk useLinter shell.reply path)) ∧
    (∀ size paths, (s.scanBatches disk useLinter (batches size paths) shell).result =
      .ok (counted (paths.map (s.resultAt disk useLinter shell.reply)))) ∧
    (∀ paths, ∃ w, (s.scanAll disk paths useLinter shell).result = .ok w ∧
      w.results = counted (paths.map (s.resultAt disk useLinter shell.reply)) ∧
      Workspace.ofResults w.results 0 = .ok w) ∧
    (∀ first second, ∃ u v w, (s.scanAll disk first useLinter shell).result = .ok u ∧
      (s.scanAll disk second useLinter shell).result = .ok v ∧
      (s.scanAll disk (first ++ second) useLinter shell).result = .ok w ∧
      w.results = u.results ++ v.results) ∧
    (∀ before path after fault, (s.scanFile disk path useLinter shell).result = .error fault →
      (s.scanAll disk (before ++ path :: after) useLinter shell).result =
        (s.scanAll disk (before ++ after) useLinter shell).result) := by
  have hall : ∀ paths, ∃ w, (s.scanAll disk paths useLinter shell).result = .ok w ∧
      w.results = counted (paths.map (s.resultAt disk useLinter shell.reply)) ∧
      Workspace.ofResults w.results 0 = .ok w := by
    intro paths
    obtain ⟨w, hw⟩ : Returns (Workspace.ofResults
      (counted (paths.map (s.resultAt disk useLinter shell.reply))) 0) := returns_ofResults paths
    obtain ⟨metrics, -, hmetrics⟩ := bind_eq_ok_iff.1 hw
    have hresults : w.results = counted (paths.map (s.resultAt disk useLinter shell.reply)) := by
      rw [← Except.ok.inj hmetrics]
    exact ⟨w, (scanAll_result paths).trans hw, hresults, hresults ▸ hw⟩
  refine ⟨fun path given => (scanFile?_yields rfl).result, fun size paths => ?_, hall, ?_, ?_⟩
  · have hbatches : Act.Yields (s.scanBatches disk useLinter (batches size paths)) shell _ _ :=
      scanBatches_yields _ (show shell.Answers shell.reply from rfl)
    rw [flatten_batches] at hbatches
    exact hbatches.result
  · intro first second
    obtain ⟨u, hu, huresults, -⟩ := hall first
    obtain ⟨v, hv, hvresults, -⟩ := hall second
    obtain ⟨w, hw, hwresults, -⟩ := hall (first ++ second)
    refine ⟨u, v, w, hu, hv, hw, ?_⟩
    rw [hwresults, huresults, hvresults, List.map_append, counted_append]
  · intro before path after fault hfault
    have hnone : s.resultAt disk useLinter shell.reply path = none := by
      have hfresh : Shell.Answers shell.reply ⟨shell.reply, []⟩ := rfl
      unfold resultAt
      rw [← (steady_scanFile s disk path useLinter).result_eq rfl hfresh, hfault]
      rfl
    rw [scanAll_result, scanAll_result, List.map_append, List.map_append, List.map_cons, hnone,
      counted_append, counted_append]
    rfl

/-- A file that is no text is scanned between two others as if it were not there. -/
theorem scanAll_eq_counted_of_undecodable :
    let s : Scanner := ⟨⟨[(.string "exclude_patterns", .list [])]⟩, ⟨[], [], []⟩, none, "/work"⟩
    let disk : Disk := ⟨[("a.js", .file [0x78]), ("b.js", .file [0xff]), ("c.js", .file [0x79])], []⟩
    (s.scanFile disk "b.js" false .bare).result.isOk = false ∧
    (s.scanAll disk ["a.js", "b.js", "c.js"] false .bare).result =
      (s.scanAll disk ["a.js", "c.js"] false .bare).result ∧
    ∃ w, (s.scanAll disk ["a.js", "c.js"] false .bare).result = .ok w ∧ w.fileCount = 2 := by
  intro s disk
  obtain ⟨-, -, hall, -, hfault⟩ := scanAll_eq_counted s disk false .bare
  have hfails : (s.scanFile disk "b.js" false .bare).result.isOk = false := by decide +kernel
  refine ⟨hfails, ?_, ?_⟩
  · cases hscan : (s.scanFile disk "b.js" false .bare).result with
    | ok r =>
      rw [hscan] at hfails
      cases hfails
    | error fault => exact hfault ["a.js"] "b.js" ["c.js"] fault hscan
  · obtain ⟨w, hw, hresults, -⟩ := hall ["a.js", "c.js"]
    refine ⟨w, hw, ?_⟩
    have hcount : (counted (["a.js", "c.js"].map
        (s.resultAt disk false Shell.bare.reply))).length = 2 := by decide +kernel
    unfold Workspace.fileCount
    rw [hresults, hcount]

end Scanner

end CodeReview
