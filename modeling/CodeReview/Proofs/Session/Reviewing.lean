/-
What a review leaves behind. Of the file, all lines that it does not mend, but what ends them only where
that is no carriage return or nothing is mended at all (`rows_after_review`); in the history, a review
that says of the file what another scan of it says (`recorded_eq_rescan`).
-/
import CodeReview.Proofs.Session.Checkup

namespace CodeReview.Checkup

open Text (Row rows)

variable {project : Project} {request : Request} {session : Session} {chars : List Char} {kept : Review}

/-! ## The lines of the file -/

/-- However a review ends, it leaves a file of as many lines, and one in which it mends nothing as it was.
A line that it does not mend is the same line, and it is the same with what ends it exactly if that is no
carriage return or nothing is mended at all. -/
theorem rows_after_review (hproper : session.disk.IsProper)
    (hfile : session.disk.find request.file = .ok (.file (Text.encode chars)))
    (hspares : request.records → project.backend.Spares session.disk request.file) :
    ∃ left, (review project request session).state.disk.find request.file =
        .ok (.file (Text.encode left)) ∧
      (mended project request session = [] → left = chars) ∧
      (rows left).length = (rows chars).length ∧
      ∀ i ∉ mended project request session,
        (rows left)[i]?.map Row.line = (rows chars)[i]?.map Row.line ∧
        ((rows left)[i]? = (rows chars)[i]? ↔ mended project request session = [] ∨
          ∀ row, (rows chars)[i]? = some row → '\r' ∉ row.ending) := by
  obtain ⟨left, hafter, hleaves, -⟩ := review_spec hproper hfile hspares
  refine ⟨left, hafter.disk.file, hleaves.untouched, hleaves.length, fun i hi => ?_⟩
  exact ⟨hleaves.line i hi, hleaves.row_eq_iff hi⟩

theorem find_single (bytes : Text.Bytes) :
    Disk.find ⟨[("a.js", .file bytes)], []⟩ "a.js" = .ok (.file bytes) := by
  with_unfolding_all rfl

theorem rows_after_review_of_crlf :
    let project : Project := ⟨"config.yml",
      ⟨[(.string "exclude_patterns", .list []), (.string "rules", .map
        [(.string "security", .bool false), (.string "performance", .bool false)])]⟩, .nothing⟩
    let request : Request := { file := "a.js", records := false, fixes := true }
    let chars := "var a\r\nb\r\n".toList
    let session : Session := {
      disk := ⟨[("a.js", .file (Text.encode chars))], []⟩
      gists := ⟨none, true, []⟩
      now := ⟨⟨2026, 1, 1⟩, 0, 0, 0, 0, some 0⟩ }
    mended project request session = [0] ∧
      ∃ left, (review project request session).state.disk.find request.file =
          .ok (.file (Text.encode left)) ∧
        (rows left)[1]?.map Row.line = some ['b'] ∧
        (rows left)[1]? ≠ (rows chars)[1]? := by
  intro project request chars session
  have hmended : mended project request session = [0] := by decide +kernel
  have hproper : session.disk.IsProper := Entry.isProper_directory_file "a.js" _
  have hfile : session.disk.find request.file = .ok (.file (Text.encode chars)) := find_single _
  have hspares : request.records → project.backend.Spares session.disk request.file :=
    fun h => nomatch h
  obtain ⟨left, hleft, -, -, hrows⟩ := rows_after_review hproper hfile hspares
  rw [hmended] at hrows
  obtain ⟨hline, hsame⟩ := hrows 1 (by decide)
  have hsecond : (rows chars)[1]? = some ⟨['b'], ['\r', '\n']⟩ := by decide +kernel
  rw [hsecond] at hline hsame
  refine ⟨hmended, left, hleft, hline, fun hrow => ?_⟩
  rcases hsame.1 (hrow.trans hsecond) with h | h
  · cases h
  · exact h _ rfl (by decide)

/-! ## The review on record -/

/-- What goes on record is the review of the scan that is reported, and the store is left with it. -/
theorem recording_eq_some {now : Moment}
    (h : (recording project request now session).result = .ok (some kept)) :
    ∃ scan before, (look project request session).result = .ok (some scan) ∧ scan.excluded = false ∧
      kept = Review.ofScan now scan ∧ request.records = true ∧
      (recording project request now session).state =
        ((project.history now).record scan before).state := by
  unfold recording at h ⊢
  obtain ⟨result, hlook, hkeep⟩ := Act.result_bind_eq_ok.1 h
  rw [Act.bind_ok hlook]
  unfold keep at hkeep ⊢
  cases result with
  | none => cases hkeep
  | some scan =>
    dsimp only at hkeep ⊢
    split at hkeep
    · next hrecords =>
      rw [if_pos hrecords]
      rw [History.result_record] at hkeep
      split at hkeep
      · cases hkeep
      · next hexcluded =>
        obtain ⟨_, -, hkept⟩ := Result.map_eq_ok_iff.1 hkeep
        exact ⟨scan, _, hlook, by simpa using hexcluded, (Option.some.inj hkept).symm, hrecords, rfl⟩
    · cases hkeep

/-- The review that goes on record says what another scan of the file says, by its path and as the review
has left it. -/
theorem recorded_eq_rescan (hproper : session.disk.IsProper)
    (hfile : session.disk.find request.file = .ok (.file (Text.encode chars)))
    (hspares : project.backend.Spares session.disk request.file)
    (hkept : (recording project request session.now session).result = .ok (some kept)) :
    let left := (review project request session).state
    ∃ scanner scan,
      (Scanner.ofConfig project.config left.disk.workingPath left).result = .ok scanner ∧
      (scanner.scanFile? left.disk request.file true left.shell).result = .ok (some scan) ∧
      kept.issues = scan.issues ∧ kept.issueCount = scan.issueCount ∧
      kept.metrics =
        ⟨scan.metrics.complexity, scan.metrics.maintainability, scan.metrics.duplication⟩ := by
  intro last
  obtain ⟨scan, before, hlook, hexcluded, rfl, -, -⟩ := recording_eq_some hkept
  obtain ⟨left, hafter, -, hreports⟩ := review_spec hproper hfile fun _ => hspares
  obtain ⟨scanner, hscanner, shell, hreply, hscan⟩ := hreports scan hlook
  refine ⟨scanner, scan, ?_, ?_, rfl, rfl, rfl⟩
  · have hpath : last.disk.workingPath = session.disk.workingPath := by
      unfold Disk.workingPath
      rw [hafter.disk.directory]
    have hsteady := Scanner.steady_ofConfig (P := fun _ : Session => True) project.config
      session.disk.workingPath
    rw [hpath, ← hscanner]
    exact hsteady.result_eq trivial trivial
  · exact Scanner.scanFile?_of_scan hafter.disk.file (Text.decode_encode left) hscan hexcluded
      (hafter.reply.trans hreply.symm)

/-- A file whose first line is mended, with the history in a file beside it: the finding in the second
line goes on record. -/
theorem recorded_eq_rescan_of_mended :
    let project : Project := ⟨"config.yml",
      ⟨[(.string "exclude_patterns", .list []), (.string "retention_days", .int 30),
        (.string "rules", .map [(.string "performance", .bool false)])]⟩,
      .file (Path.ofString "history.json")⟩
    let request : Request := { file := "a.js", fixes := true }
    let chars := "var a\r\neval(a)".toList
    let session : Session := {
      disk := ⟨[("a.js", .file (Text.encode chars))], []⟩
      gists := ⟨none, true, []⟩
      now := ⟨⟨2026, 1, 1⟩, 0, 0, 0, 0, some 0⟩ }
    let left := (review project request session).state
    mended project request session = [0] ∧ ∃ kept scanner scan,
      (recording project request session.now session).result = .ok (some kept) ∧
      (Scanner.ofConfig project.config left.disk.workingPath left).result = .ok scanner ∧
      (scanner.scanFile? left.disk request.file true left.shell).result = .ok (some scan) ∧
      kept.issues.length = 1 ∧ kept.issues = scan.issues ∧ kept.issueCount = scan.issueCount ∧
      kept.metrics =
        ⟨scan.metrics.complexity, scan.metrics.maintainability, scan.metrics.duplication⟩ := by
  intro project request chars session left
  have hmended : mended project request session = [0] := by decide +kernel
  have hproper : session.disk.IsProper := Entry.isProper_directory_file "a.js" _
  have hfile : session.disk.find request.file = .ok (.file (Text.encode chars)) := find_single _
  have hspares : project.backend.Spares session.disk request.file := by
    refine ⟨by decide +kernel, fun beside hbeside => ?_⟩
    have hdraft : JsonFile.draft (Path.ofString "history.json") =
        .ok (Path.ofString "history.json.tmp") := by decide +kernel
    rw [hdraft] at hbeside
    obtain rfl := Except.ok.inj hbeside
    decide +kernel
  have hone : (recording project request session.now session).result.toOption.join.map
      (·.issues.length) = some 1 := by decide +kernel
  obtain ⟨kept, hkept, hlength⟩ := Option.map_eq_some_iff.1 hone
  have hrecorded : (recording project request session.now session).result = .ok (some kept) := by
    cases hresult : (recording project request session.now session).result with
    | error fault =>
      rw [hresult] at hkept
      cases hkept
    | ok recorded =>
      rw [hresult] at hkept
      exact congrArg Except.ok hkept
  obtain ⟨scanner, scan, hscanner, hscan, hissues⟩ :=
    recorded_eq_rescan hproper hfile hspares hrecorded
  exact ⟨hmended, kept, scanner, scan, hrecorded, hscanner, hscan, hlength, hissues⟩

end CodeReview.Checkup
