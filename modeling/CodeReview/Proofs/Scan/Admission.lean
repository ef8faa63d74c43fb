/-
Two ways to a scan: by the path of a file on the disk, and by its text and size. Both ask whether the
file is left out and whether it is too large, but only the second asks whether scanning is switched
off before it does. `scanFile?_eq_scan_iff` says exactly when they come to the same, and when a file
that the second leaves out is counted by the first among the files of a workspace.
-/
import CodeReview.Proofs.Disk.Tree
import CodeReview.Scan.Files
import Mathlib.Data.List.Forall2

namespace CodeReview.Scanner

variable {s : Scanner} {disk : Disk} {path text : String} {size : Amount} {useLinter : Bool}
  {shell : Shell} {bytes : Text.Bytes} {chars : List Char}

/-! ## What a scan comes to -/

theorem scan_result_of_isOff (h : s.isOff = true) :
    (s.scan text path (some size) useLinter shell).result = .ok (.leftOut path) := by
  unfold scan
  rw [if_pos h]
  rfl

/-- Where scanning is not switched off, a text is admitted by path and size and then examined. -/
theorem scan_result_of_not_isOff (h : s.isOff = false) :
    (s.scan text path (some size) useLinter shell).result =
      match s.leavesOut path, s.isOversized size with
      | .error fault, _ => .error fault
      | .ok true, _ => .ok (.leftOut path)
      | .ok false, .error fault => .error fault
      | .ok false, .ok true => oversizedResult path size
      | .ok false, .ok false => (s.examine text path useLinter shell).result := by
  unfold scan
  rw [if_neg (by simp [h]), Act.result_bind, Act.result_ofExcept]
  cases s.leavesOut path with
  | error fault => rfl
  | ok out =>
    cases out with
    | true => rfl
    | false =>
      rw [Option.getD_some]
      dsimp only [Act.state_ofExcept]
      rw [if_neg (by simp), Act.result_bind, Act.result_ofExcept]
      cases s.isOversized size with
      | error fault => rfl
      | ok large => cases large <;> rfl

/-- The scan of a file on the disk: admitted by path and size, and then scanned as a text. -/
theorem scanFile_result (hfile : disk.find path = .ok (.file bytes))
    (hutf8 : Text.decode bytes = .ok chars) :
    (s.scanFile disk path useLinter shell).result =
      match s.leavesOut path, s.isOversized (.int bytes.length) with
      | .error fault, _ => .error fault
      | .ok true, _ => .ok (.leftOut path)
      | .ok false, .error fault => .error fault
      | .ok false, .ok true => oversizedResult path (.int bytes.length)
      | .ok false, .ok false => (s.scan (String.ofList (Text.normalizeNewlines chars)) path
          (some (.int bytes.length)) useLinter shell).result := by
  unfold scanFile
  rw [Act.result_bind, Act.result_ofExcept]
  cases s.leavesOut path with
  | error fault => rfl
  | ok out =>
    cases out with
    | true => rfl
    | false =>
      dsimp only [Act.state_ofExcept]
      rw [if_neg (by simp), Act.result_bind, Act.result_ofExcept, Disk.size_of_find hfile]
      dsimp only [Act.state_ofExcept]
      rw [Act.result_bind, Act.result_ofExcept]
      cases s.isOversized (.int bytes.length) with
      | error fault => rfl
      | ok large =>
        cases large with
        | true => rfl
        | false =>
          dsimp only [Act.state_ofExcept]
          rw [if_neg (by simp), Act.result_bind, Act.result_ofExcept,
            Disk.readText_of_find hfile hutf8]
          rfl

theorem scanFile?_result :
    (s.scanFile? disk path useLinter shell).result =
      .ok (s.scanFile disk path useLinter shell).result.toOption := by
  unfold scanFile?
  rw [Act.result_bind, Act.result_attempt]
  dsimp only
  cases (s.scanFile disk path useLinter shell).result <;> rfl

/-! ## What a result says -/

theorem oversizedResult_spec {r : ScanResult} (h : oversizedResult path size = .ok r) :
    r.file = path ∧ r.excluded = false := by
  unfold oversizedResult at h
  cases hsize : kilobytes size with
  | error fault => rw [hsize] at h; cases h
  | ok large =>
    rw [hsize] at h
    cases hround : roundHalfUp large with
    | error fault =>
      simp only [bind, Except.bind, hround] at h
      cases h
    | ok shown =>
      simp only [bind, Except.bind, hround] at h
      cases h
      exact ⟨rfl, rfl⟩

theorem examine_spec {r : ScanResult} (h : (s.examine text path useLinter shell).result = .ok r) :
    r.file = path ∧ r.excluded = false := by
  unfold examine at h
  obtain ⟨_, -, h⟩ := Act.result_bind_eq_ok.1 h
  obtain ⟨_, -, h⟩ := Act.result_bind_eq_ok.1 h
  obtain ⟨_, -, h⟩ := Act.result_bind_eq_ok.1 h
  obtain ⟨_, -, h⟩ := Act.result_bind_eq_ok.1 h
  cases h
  exact ⟨rfl, rfl⟩

/-- A scan of a file says which file it is of. -/
theorem scan_file {r : ScanResult}
    (h : (s.scan text path (some size) useLinter shell).result = .ok r) : r.file = path := by
  cases hoff : s.isOff with
  | true => rw [scan_result_of_isOff hoff] at h; cases h; rfl
  | false =>
    rw [scan_result_of_not_isOff hoff] at h
    split at h
    · cases h
    · cases h; rfl
    · cases h
    · exact (oversizedResult_spec h).1
    · exact (examine_spec h).1

theorem scanFile_file {r : ScanResult}
    (h : (s.scanFile disk path useLinter shell).result = .ok r) : r.file = path := by
  unfold scanFile at h
  obtain ⟨out, -, h⟩ := Act.result_bind_eq_ok.1 h
  cases out with
  | true => cases h; rfl
  | false =>
    obtain ⟨_, -, h⟩ := Act.result_bind_eq_ok.1 h
    obtain ⟨large, -, h⟩ := Act.result_bind_eq_ok.1 h
    cases large with
    | true => exact (oversizedResult_spec h).1
    | false =>
      obtain ⟨_, -, h⟩ := Act.result_bind_eq_ok.1 h
      exact scan_file h

/-! ## Many files -/

/-- A result that the file at a path has in some state of the shell. -/
def Scans (s : Scanner) (disk : Disk) (useLinter : Bool) (path : String)
    (result : Option ScanResult) : Prop :=
  ∃ shell, (s.scanFile? disk path useLinter shell).result = .ok result

theorem Scans.of_some {r : ScanResult} (h : s.Scans disk useLinter path (some r)) :
    ∃ shell, (s.scanFile disk path useLinter shell).result = .ok r := by
  obtain ⟨shell, h⟩ := h
  rw [scanFile?_result] at h
  refine ⟨shell, ?_⟩
  cases hscan : (s.scanFile disk path useLinter shell).result with
  | error fault => rw [hscan] at h; cases h
  | ok r' => rw [hscan] at h; cases h; rfl

theorem scanBatch_result (s : Scanner) (disk : Disk) (useLinter : Bool) (paths : List String)
    (shell : Shell) :
    ∃ results, (s.scanBatch disk useLinter paths shell).result = .ok results ∧
      List.Forall₂ (s.Scans disk useLinter) paths results := by
  induction paths generalizing shell with
  | nil => exact ⟨[], rfl, .nil⟩
  | cons path paths ih =>
    obtain ⟨results, hresults, hscans⟩ := ih (s.scanFile? disk path useLinter shell).state
    refine ⟨_, ?_, .cons ⟨shell, scanFile?_result⟩ hscans⟩
    unfold scanBatch
    rw [Act.result_bind, scanFile?_result]
    dsimp only
    rw [Act.result_bind, hresults]
    rfl

theorem counted_append (first second : List (Option ScanResult)) :
    counted (first ++ second) = counted first ++ counted second := by
  simp [counted]

theorem scanBatches_result (s : Scanner) (disk : Disk) (useLinter : Bool)
    (batches : List (List String)) (shell : Shell) :
    ∃ results, (s.scanBatches disk useLinter batches shell).result = .ok (counted results) ∧
      List.Forall₂ (s.Scans disk useLinter) batches.flatten results := by
  induction batches generalizing shell with
  | nil => exact ⟨[], rfl, .nil⟩
  | cons batch batches ih =>
    obtain ⟨first, hfirst, hscans⟩ := scanBatch_result s disk useLinter batch shell
    obtain ⟨more, hmore, hscans'⟩ := ih (s.scanBatch disk useLinter batch shell).state
    refine ⟨first ++ more, ?_, List.rel_append hscans hscans'⟩
    unfold scanBatches
    rw [Act.result_bind, hfirst]
    dsimp only
    rw [Act.result_bind, hmore, counted_append]
    rfl

/-- The results of a workspace are those of its files, in order, as far as they count. -/
theorem scanAll_results {paths : List String} {shell : Shell} {w : Workspace}
    (h : (s.scanAll disk paths useLinter shell).result = .ok w) :
    ∃ results, w.results = counted results ∧ List.Forall₂ (s.Scans disk useLinter) paths results := by
  obtain ⟨results, hresults, hscans⟩ := scanBatches_result s disk useLinter
    (batches (batchSize useLinter) paths) shell
  rw [flatten_batches] at hscans
  refine ⟨results, ?_, hscans⟩
  unfold scanAll at h
  obtain ⟨found, hfound, h⟩ := Act.result_bind_eq_ok.1 h
  rw [hresults] at hfound
  cases hfound
  rw [Act.result_ofExcept, Workspace.ofResults] at h
  cases hmetrics : Workspace.combine (Workspace.measured (counted results)) with
  | error fault => rw [hmetrics] at h; cases h
  | ok metrics => rw [hmetrics] at h; cases h; rfl

theorem exists_of_mem_right {α β : Type} {R : α → β → Prop} {as : List α} {bs : List β}
    (h : List.Forall₂ R as bs) {b : β} (hb : b ∈ bs) : ∃ a ∈ as, R a b := by
  induction h with
  | nil => cases hb
  | @cons a _ _ _ hhere _ ih =>
    rcases List.mem_cons.1 hb with rfl | hb
    · exact ⟨a, List.mem_cons_self .., hhere⟩
    · obtain ⟨a', ha', hR⟩ := ih hb
      exact ⟨a', List.mem_cons_of_mem _ ha', hR⟩

theorem exists_of_mem_left {α β : Type} {R : α → β → Prop} {as : List α} {bs : List β}
    (h : List.Forall₂ R as bs) {a : α} (ha : a ∈ as) : ∃ b ∈ bs, R a b := by
  have hflip : List.Forall₂ (fun b a => R a b) bs as := h.flip
  exact exists_of_mem_right hflip ha

theorem mem_counted {results : List (Option ScanResult)} {r : ScanResult} :
    r ∈ counted results ↔ some r ∈ results ∧ r.excluded = false := by
  simp [counted]

/-- Some file of a workspace has a result that counts exactly if its own scan has one. -/
theorem file_mem_scanAll_iff {paths : List String} {shell : Shell} {w : Workspace}
    (h : (s.scanAll disk paths useLinter shell).result = .ok w) {Counts : Prop}
    (hcounts : ∀ shell, (∃ r, (s.scanFile disk path useLinter shell).result = .ok r ∧
      r.excluded = false) ↔ Counts) :
    (∃ r ∈ w.results, r.file = path) ↔ path ∈ paths ∧ Counts := by
  obtain ⟨results, hw, hscans⟩ := scanAll_results h
  rw [hw]
  constructor
  · rintro ⟨r, hr, rfl⟩
    obtain ⟨hmem, hexcluded⟩ := mem_counted.1 hr
    obtain ⟨p, hp, hscan⟩ := exists_of_mem_right hscans hmem
    obtain ⟨shell', hscan⟩ := hscan.of_some
    have hfile := scanFile_file hscan
    subst hfile
    exact ⟨hp, (hcounts shell').1 ⟨r, hscan, hexcluded⟩⟩
  · rintro ⟨hpath, hholds⟩
    obtain ⟨result, hmem, shell', hscan⟩ := exists_of_mem_left hscans hpath
    obtain ⟨r, hr, hexcluded⟩ := (hcounts shell').2 hholds
    rw [scanFile?_result, hr] at hscan
    cases hscan
    exact ⟨r, mem_counted.2 ⟨hmem, hexcluded⟩, scanFile_file hr⟩

/-! ## When the two ways agree -/

/-- Where scanning is switched off, the file is left out by its path, or known to be no larger than
allowed. -/
def AgreesWhileOff (s : Scanner) (path : String) (size : Amount) : Prop :=
  s.isOff = true → s.leavesOut path = .ok true ∨
    (s.leavesOut path = .ok false ∧ s.isOversized size = .ok false)

/-- Scanning is switched off, and still the file is reported to be too large. -/
def ReportsWhileOff (s : Scanner) (path : String) (size : Amount) : Prop :=
  s.isOff = true ∧ s.leavesOut path = .ok false ∧ s.isOversized size = .ok true ∧
    (oversizedResult path size).isOk = true

theorem scanFile_eq_iff (hfile : disk.find path = .ok (.file bytes))
    (hutf8 : Text.decode bytes = .ok chars) {r : ScanResult}
    (hr : (s.scan (String.ofList (Text.normalizeNewlines chars)) path (some (.int bytes.length))
      useLinter shell).result = .ok r) :
    (s.scanFile disk path useLinter shell).result = .ok r ↔
      s.AgreesWhileOff path (.int bytes.length) := by
  rw [scanFile_result hfile hutf8]
  unfold AgreesWhileOff
  cases hoff : s.isOff with
  | false =>
    refine ⟨fun _ h => (by cases h), fun _ => ?_⟩
    have hr' := hr
    rw [scan_result_of_not_isOff hoff] at hr'
    split at hr' <;> simp_all
  | true =>
    rw [scan_result_of_isOff hoff] at hr ⊢
    cases hr
    rcases hout : s.leavesOut path with fault | out
    · simp
    · rcases hlarge : s.isOversized (.int bytes.length) with fault | large
      · cases out <;> simp
      · cases out
        · cases large
          · simp
          · have hne : oversizedResult path (.int bytes.length) ≠ .ok (.leftOut path) := by
              intro h
              cases (oversizedResult_spec h).2
            simp [hne]
        · simp

/-- A file that is left out when it is scanned by its text has a result that counts, when it is
scanned by its path, only while scanning is switched off. -/
theorem counts_iff_of_excluded (hfile : disk.find path = .ok (.file bytes))
    (hutf8 : Text.decode bytes = .ok chars) {r : ScanResult}
    (hr : (s.scan (String.ofList (Text.normalizeNewlines chars)) path (some (.int bytes.length))
      useLinter shell).result = .ok r) (hexcluded : r.excluded = true) (detailed : Bool)
    (shell' : Shell) :
    (∃ r', (s.scanFile disk path detailed shell').result = .ok r' ∧ r'.excluded = false) ↔
      s.ReportsWhileOff path (.int bytes.length) := by
  rw [scanFile_result hfile hutf8]
  unfold ReportsWhileOff
  cases hoff : s.isOff with
  | false =>
    rw [scan_result_of_not_isOff hoff] at hr
    -- only the path can have left the file out
    have hout : s.leavesOut path = .ok true := by
      split at hr
      · cases hr
      · assumption
      · cases hr
      · rw [(oversizedResult_spec hr).2] at hexcluded; cases hexcluded
      · rw [(examine_spec hr).2] at hexcluded; cases hexcluded
    simp [hout, ScanResult.leftOut]
  | true =>
    rw [scan_result_of_isOff hoff]
    rcases hout : s.leavesOut path with fault | out
    · simp
    · rcases hlarge : s.isOversized (.int bytes.length) with fault | large
      · cases out <;> simp [ScanResult.leftOut]
      · cases out
        · cases large
          · simp [ScanResult.leftOut]
          · cases hresult : oversizedResult path (.int bytes.length) with
            | error fault => simp [Except.isOk, Except.toBool]
            | ok r' => simp [Except.isOk, Except.toBool, (oversizedResult_spec hresult).2]
        · simp [ScanResult.leftOut]

/-- A file holding a text is scanned by its path as it is by its text and size, unless scanning is
switched off and the path and the size, which are asked for first, do not both let the file pass or
the path leave it out. A file that the scan of its text leaves out is counted in a workspace exactly
where it is reported to be too large although scanning is switched off. -/
theorem scanFile?_eq_scan_iff (hfile : disk.find path = .ok (.file bytes))
    (hutf8 : Text.decode bytes = .ok chars) {r : ScanResult}
    (hr : (s.scan (String.ofList (Text.normalizeNewlines chars)) path (some (.int bytes.length))
      useLinter shell).result = .ok r) :
    ((s.scanFile? disk path useLinter shell).result = .ok (some r) ↔
      s.AgreesWhileOff path (.int bytes.length)) ∧
    (r.excluded = true → ∀ paths detailed shell' w,
      (s.scanAll disk paths detailed shell').result = .ok w →
        ((∃ r' ∈ w.results, r'.file = path) ↔
          path ∈ paths ∧ s.ReportsWhileOff path (.int bytes.length))) := by
  constructor
  · rw [← scanFile_eq_iff hfile hutf8 hr, scanFile?_result]
    cases (s.scanFile disk path useLinter shell).result <;> simp [Except.toOption]
  · intro hexcluded paths detailed shell' w hw
    exact file_mem_scanAll_iff hw (counts_iff_of_excluded hfile hutf8 hr hexcluded detailed)

/-- A file too large for a scanner that is switched off: left out as a text, counted as a file. -/
theorem scanFile?_eq_scan_iff_of_oversized :
    let s : Scanner := ⟨⟨[(.string "enabled", .bool false), (.string "exclude_patterns", .list []),
      (.string "max_file_size", .float (.finite (mkRat 1 1024)))]⟩, ⟨[], [], []⟩, none, "/work"⟩
    let disk : Disk := ⟨[("a.js", .file [0x78, 0x78])], []⟩
    disk.find "a.js" = .ok (.file [0x78, 0x78]) ∧ Text.decode [0x78, 0x78] = .ok ['x', 'x'] ∧
    (s.scan "xx" "a.js" (some (.int 2)) false .bare).result = .ok (.leftOut "a.js") ∧
    (s.scanFile? disk "a.js" false .bare).result ≠ .ok (some (.leftOut "a.js")) ∧
    ∃ w, (s.scanAll disk ["a.js"] false .bare).result = .ok w ∧
      ∃ r' ∈ w.results, r'.file = "a.js" := by
  intro s disk
  have hfile : disk.find "a.js" = .ok (.file [0x78, 0x78]) := by with_unfolding_all rfl
  have hutf8 : Text.decode [0x78, 0x78] = .ok ['x', 'x'] := by decide +kernel
  have hout : s.leavesOut "a.js" = .ok false := rfl
  have hlarge : s.isOversized (.int 2) = .ok true := by decide +kernel
  have hscan : (s.scan "xx" "a.js" (some (.int 2)) false .bare).result =
      .ok (.leftOut "a.js") := scan_result_of_isOff rfl
  obtain ⟨hagrees, hcounts⟩ := scanFile?_eq_scan_iff hfile hutf8 hscan
  have hworks : (s.scanAll disk ["a.js"] false .bare).result.isOk = true := by decide +kernel
  refine ⟨hfile, hutf8, hscan, fun h => ?_, ?_⟩
  · rcases hagrees.1 h rfl with h' | ⟨-, h'⟩
    · rw [show s.leavesOut "a.js" = .ok false from hout] at h'; cases h'
    · rw [show s.isOversized (.int ([0x78, 0x78] : Text.Bytes).length) = .ok true from hlarge] at h'
      cases h'
  · cases hw : (s.scanAll disk ["a.js"] false .bare).result with
    | error fault => rw [hw] at hworks; cases hworks
    | ok w =>
      refine ⟨w, rfl, (hcounts rfl _ _ _ w hw).2 ⟨List.mem_cons_self .., rfl, hout, hlarge, ?_⟩⟩
      decide +kernel

end CodeReview.Scanner
