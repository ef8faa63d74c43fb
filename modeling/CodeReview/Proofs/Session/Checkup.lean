/-
A review taken apart: the file is read and scanned (`sight`), then fixed if that is asked for (`settle`),
then shown (`present`), and last what came of it goes on record (`review_eq`). Before the last step the
file holds the text of which the scan is reported, and what fixing has left of the text it held
(`look_spec`).
-/
import CodeReview.Proofs.Fix
import CodeReview.Proofs.Session.Sparing
import CodeReview.Proofs.Text.Utf8
import CodeReview.Session.Checkup

namespace CodeReview.Checkup

/-! ## The parts of a review -/

/-- A file that has been read and scanned. -/
structure Sight where
  scanner : Scanner
  text : List Char
  first : ScanResult

/-- Reads the file and scans it, unless there is nothing to review. -/
def sight (project : Project) (request : Request) : Act Session (Option Sight) := do
  let onSave := (project.config.get? "auto_analyze_on_save").getD (.bool true)
  if request.onSave && onSave.isEmpty then return none
  let session ← Act.get
  let (text, size) ← Act.ofExcept ((read session.disk request.file).mapError (readFault request.file))
  let scanner ← Scanner.ofConfig project.config session.disk.workingPath
  let first ← Session.inShell
    (scanner.scan (String.ofList text) request.file (some (.int size)) true)
  if first.excluded then
    Act.say (Shown.colored "dim"
      (request.file ++ " is excluded by configuration — nothing to review."))
    return none
  return some ⟨scanner, text, first⟩

/-- The file is to be fixed. -/
def Sight.isFixed (request : Request) (seen : Sight) : Bool := request.fixes && !seen.first.oversized

/-- What is reported of the file, which is fixed first if it is to be. -/
def settle (request : Request) (seen : Sight) : Act Session ScanResult :=
  if seen.isFixed request then fix seen.scanner request.file seen.text seen.first else pure seen.first

/-- Shows what is reported. -/
def present (request : Request) (result : ScanResult) : Act Session Unit := do
  Act.display (← Act.ofExcept (findings result))
  if !result.oversized then
    Act.display (.report (result.metrics.report
      ("Quality Report — " ++ (Path.ofString request.file).name)))

/-- What is reported of the file, when it has been shown. -/
def report (request : Request) (seen : Sight) : Act Session (Option ScanResult) := do
  let result ← settle request seen
  present request result
  return some result

/-- What is reported of the file, unless there is nothing to review. -/
def look (project : Project) (request : Request) : Act Session (Option ScanResult) := do
  match ← sight project request with
  | some seen => report request seen
  | none => return none

/-- What is reported goes on record, unless the request says otherwise. -/
def keep (project : Project) (request : Request) (now : Moment) (result : Option ScanResult) :
    Act Session (Option Review) := do
  match result with
  | some result => if request.records then (project.history now).record result else return none
  | none => return none

/-- What is reported is shown, and what is shown goes on record. -/
theorem report_keep (project : Project) (request : Request) (now : Moment) (seen : Sight) :
    (do let result ← report request seen
        let _ ← keep project request now result) = (do
      let result ← settle request seen
      Act.display (← Act.ofExcept (findings result))
      if !result.oversized then
        Act.display (.report (result.metrics.report
          ("Quality Report — " ++ (Path.ofString request.file).name)))
      if request.records then
        let _ ← (project.history now).record result) := by
  unfold report present keep
  simp only [bind_assoc, pure_bind]
  refine bind_congr fun result => bind_congr fun shown => bind_congr fun _ => ?_
  split <;> split <;> simp only [pure_bind]

/-- A review of a file, with what it puts on record. -/
def recording (project : Project) (request : Request) (now : Moment) : Act Session (Option Review) := do
  keep project request now (← look project request)

/-- A review is a look at the file, of which the outcome is kept. -/
theorem review_eq (project : Project) (request : Request) (session : Session) :
    review project request session = (do let _ ← recording project request session.now) session := by
  unfold review recording look sight
  dsimp only
  split
  · rfl
  simp only [bind_assoc]
  rw [Act.get_bind, Act.get_bind]
  -- both read and scan the file, and differ only in where they go on from there
  refine congrFun (bind_congr fun read => bind_congr fun scanner => bind_congr fun first => ?_) session
  cases first.excluded with
  | true => rfl
  | false =>
    have hreport := report_keep project request session.now ⟨scanner, read.1, first⟩
    simp only [Bool.false_eq_true, if_false, pure_bind]
    rw [hreport]
    unfold settle Sight.isFixed
    split
    · rfl
    · rfl

theorem state_review (project : Project) (request : Request) (session : Session) :
    (review project request session).state =
      (recording project request session.now session).state := by
  rw [review_eq, Act.state_bind]
  split
  · rfl
  · rfl

/-! ## Looking -/

variable {project : Project} {request : Request} {start session : Session} {seen : Sight}
  {chars text : List Char} {size : ℕ} {bytes : Text.Bytes} {file : String} {disk : Disk}

/-- A scan gives the shell commands, and it answers them as it did. -/
theorem preserves_scan (scanner : Scanner) (text file' : String) (size : Option Amount) :
    Act.Preserves (start.HasFile file bytes) (Session.inShell (scanner.scan text file' size true)) :=
  (Scanner.steady_scan scanner text file' size true).preserves.within (fun _ h => h.reply)
    fun _ _ h hshell => ⟨h.disk, hshell⟩

theorem preserves_sight (project : Project) (request : Request) :
    Act.Preserves (start.HasFile file bytes) (sight project request) := by
  unfold sight
  dsimp only
  split
  · exact .pure _
  refine .bind .get fun session => .bind (.ofExcept _) fun read => ?_
  refine .bind (Scanner.steady_ofConfig _ _).preserves fun scanner => ?_
  refine .bind (preserves_scan _ _ _ _) fun first => ?_
  split
  · exact .bind (.display _) fun _ => .pure _
  · exact .pure _

theorem preserves_present (request : Request) (result : ScanResult) :
    Act.Preserves (start.HasFile file bytes) (present request result) := by
  unfold present
  refine .bind (.ofExcept _) fun shown => .bind (.display _) fun _ => ?_
  split
  · exact .display _
  · exact .pure _

/-- A file that has been read and scanned was not left out. -/
theorem sight_eq_some (h : (sight project request session).result = .ok (some seen)) :
    ∃ size, read session.disk request.file = .ok (seen.text, size) ∧
      (Scanner.ofConfig project.config session.disk.workingPath session).result = .ok seen.scanner ∧
      (seen.scanner.scan (String.ofList seen.text) request.file (some (.int size)) true
        session.shell).result = .ok seen.first ∧ seen.first.excluded = false := by
  unfold sight at h
  dsimp only at h
  split at h
  · cases h
  rw [Act.get_bind] at h
  obtain ⟨⟨text, size⟩, hread, h⟩ := Act.result_bind_eq_ok.1 h
  obtain ⟨scanner, hscanner, h⟩ := Act.result_bind_eq_ok.1 h
  obtain ⟨first, hfirst, h⟩ := Act.result_bind_eq_ok.1 h
  rw [Act.state_ofExcept] at hscanner hfirst
  rw [Scanner.state_ofConfig] at hfirst
  split at h
  · cases h
  next hexcluded =>
  obtain rfl := Option.some.inj (Except.ok.inj h)
  refine ⟨size, ?_, hscanner, hfirst, by simpa using hexcluded⟩
  rw [Act.result_ofExcept] at hread
  cases hfound : read session.disk request.file with
  | error fault =>
    rw [hfound] at hread
    cases hread
  | ok found =>
    rw [hfound] at hread
    exact hread

theorem read_eq_ok (hfile : disk.find file = .ok (.file (Text.encode chars)))
    (h : read disk file = .ok (text, size)) : text = Text.normalizeNewlines chars ∧
      size = (Text.encode chars).length ∧
      disk.find (Path.ofString file).text = .ok (.file (Text.encode chars)) := by
  unfold read at h
  dsimp only at h
  cases hfound : disk.find (Path.ofString file).text with
  | error fault =>
    unfold Disk.readText Disk.read at h
    rw [hfound] at h
    cases h
  | ok e =>
    obtain rfl := Disk.find_eq_of_target hfile (Disk.target_text_ofString disk file) hfound
    rw [Disk.readText_of_find hfound (Text.decode_encode chars), Disk.size_of_find hfound] at h
    obtain ⟨rfl, rfl⟩ := Prod.mk.inj (Except.ok.inj h)
    exact ⟨rfl, rfl, rfl⟩

/-! ## Fixing -/

/-- The indices of the lines that are mended. -/
def Sight.mended (request : Request) (seen : Sight) : List ℕ :=
  if seen.isFixed request then Fix.mended seen.text seen.first.issues else []

/-- What a scanner reports of a file that holds a text, where commands are answered in some way. -/
def Reports (reply : Command → Reply) (scanner : Scanner) (file : String) (text : List Char)
    (result : ScanResult) : Prop :=
  ∃ shell, Shell.Answers reply shell ∧ (scanner.scan (String.ofList (Text.normalizeNewlines text)) file
    (some (.int (Text.encode text).length)) true shell).result = .ok result

theorem fix_of_count_eq_zero (scanner : Scanner) (file : String) (session : Session)
    {first : ScanResult} {fixed : List Char} (h : Fix.apply text first.issues = .ok (fixed, 0)) :
    (fix scanner file text first session).result = .ok first ∧
      (fix scanner file text first session).state = session := by
  unfold fix
  rw [h]
  exact ⟨rfl, rfl⟩

theorem fix_of_count_ne_zero (scanner : Scanner) {first : ScanResult} {fixed : List Char} {count : ℕ}
    {written : Disk} (h : Fix.apply text first.issues = .ok (fixed, count)) (hcount : count ≠ 0)
    (hwrite : session.disk.withFile (Path.ofString file).text (Text.encode fixed) = .ok written) :
    (fix scanner file text first session).result =
        (scanner.scan (String.ofList fixed) file none true session.shell).result ∧
      (fix scanner file text first session).state = { session with
        disk := written
        shell := (scanner.scan (String.ofList fixed) file none true session.shell).state } := by
  have hwritten : Session.onDisk (Disk.writeText (Path.ofString file).text fixed) session =
      ⟨.ok (), { session with disk := written }, [], []⟩ := by
    unfold Session.onDisk Act.within Disk.writeText
    rw [Disk.write_of_ok hwrite]
  have hfix : fix scanner file text first session = (do
      Session.onDisk (Disk.writeText (Path.ofString file).text fixed)
      Act.say (Shown.colored "green"
        ("Applied " ++ toString count ++ " quick fix(es) to " ++ file ++ "."))
      Session.inShell (scanner.scan (String.ofList fixed) file none true)) session := by
    unfold fix
    rw [h, Act.ofExcept_ok, pure_bind]
    dsimp only
    rw [if_neg hcount]
  rw [hfix, Act.bind_ok (a := ()) (by rw [hwritten]), hwritten]
  exact ⟨rfl, rfl⟩

/-- Fixing a file leaves the text of which it reports the scan. -/
theorem fix_spec {scanner : Scanner} {first : ScanResult}
    (hbefore : start.HasFile file (Text.encode chars) session)
    (hfound : session.disk.find (Path.ofString file).text = .ok (.file (Text.encode chars)))
    (hfirst : Reports start.shell.reply scanner file chars first) :
    ∃ left, start.HasFile file (Text.encode left)
        (fix scanner file (Text.normalizeNewlines chars) first session).state ∧
      Fix.Leaves chars left (Fix.mended (Text.normalizeNewlines chars) first.issues) ∧
      ∀ result, (fix scanner file (Text.normalizeNewlines chars) first session).result = .ok result →
        Reports start.shell.reply scanner file left result := by
  cases hfix : Fix.apply (Text.normalizeNewlines chars) first.issues with
  | error fault =>
    rw [Fix.mended_of_apply_error hfix]
    unfold fix
    rw [hfix]
    exact ⟨chars, hbefore, .refl chars, nofun⟩
  | ok fixing =>
    obtain ⟨fixed, count⟩ := fixing
    obtain ⟨-, -, hreturn, hnone⟩ := Fix.apply_spec hfix (Text.return_notMem_normalizeNewlines chars)
    by_cases hcount : count = 0
    · subst hcount
      obtain ⟨hresult, hstate⟩ := fix_of_count_eq_zero scanner file session hfix
      rw [hnone.1 rfl, hresult, hstate]
      exact ⟨chars, hbefore, .refl chars, fun result h => Except.ok.inj h ▸ hfirst⟩
    obtain ⟨written, hwrite, hafter⟩ :=
      hbefore.disk.withFile_self (Disk.target_text_ofString start.disk file) hfound
    obtain ⟨hresult, hstate⟩ := fix_of_count_ne_zero scanner hfix hcount hwrite
    have hreply := (Scanner.steady_scan scanner (String.ofList fixed) file none true).preserves _
      hbefore.reply
    rw [hresult, hstate]
    refine ⟨fixed, ⟨hafter, hreply⟩, Fix.leaves_of_apply hfix hcount, fun result h => ?_⟩
    -- the text that was written is read as it is, and its size is that of the file
    have hsize : scanner.scan (String.ofList fixed) file none true =
        scanner.scan (String.ofList fixed) file (some (.int (Text.encode fixed).length)) true := by
      show scanner.scan (String.ofList fixed) file
        (some (.int (Text.encodedSize (String.ofList fixed).toList))) true = _
      rw [String.toList_ofList]
      rfl
    refine ⟨session.shell, hbefore.reply, ?_⟩
    rw [Text.normalizeNewlines_eq_self hreturn, ← hsize, h]

theorem settle_spec (hbefore : start.HasFile request.file (Text.encode chars) session)
    (hfound : session.disk.find (Path.ofString request.file).text = .ok (.file (Text.encode chars)))
    (htext : seen.text = Text.normalizeNewlines chars)
    (hfirst : Reports start.shell.reply seen.scanner request.file chars seen.first) :
    ∃ left, start.HasFile request.file (Text.encode left) (settle request seen session).state ∧
      Fix.Leaves chars left (seen.mended request) ∧
      ∀ result, (settle request seen session).result = .ok result →
        Reports start.shell.reply seen.scanner request.file left result := by
  unfold settle Sight.mended
  split
  · rw [htext]
    exact fix_spec hbefore hfound hfirst
  · exact ⟨chars, hbefore, .refl chars, fun result h => Except.ok.inj h ▸ hfirst⟩

/-! ## The whole look -/

/-- The indices of the lines of the file that a review mends. -/
def mended (project : Project) (request : Request) (session : Session) : List ℕ :=
  match (sight project request session).result with
  | .ok (some seen) => seen.mended request
  | _ => []

/-- A look leaves the text of which it reports the scan, and fixes no other lines than those that are
mended. -/
theorem look_spec (hproper : session.disk.IsProper)
    (hfile : session.disk.find request.file = .ok (.file (Text.encode chars))) :
    ∃ left, session.HasFile request.file (Text.encode left) (look project request session).state ∧
      Fix.Leaves chars left (mended project request session) ∧
      ∀ result, (look project request session).result = .ok (some result) → ∃ scanner,
        (Scanner.ofConfig project.config session.disk.workingPath session).result = .ok scanner ∧
        Reports session.shell.reply scanner request.file left result := by
  have hbefore : session.HasFile request.file (Text.encode chars) session := ⟨⟨hproper, rfl, hfile⟩, rfl⟩
  have hsight := preserves_sight project request session hbefore
  unfold mended
  cases hseen : (sight project request session).result with
  | error fault =>
    unfold look
    rw [Act.bind_error hseen]
    exact ⟨chars, hsight, .refl chars, nofun⟩
  | ok seen =>
    unfold look
    rw [Act.bind_ok hseen]
    cases seen with
    | none => exact ⟨chars, hsight, .refl chars, nofun⟩
    | some seen =>
      obtain ⟨size, hread, hscanner, hfirst, -⟩ := sight_eq_some hseen
      obtain ⟨htext, rfl, hfound⟩ := read_eq_ok hfile hread
      -- the file is read and written at the path in its plain form, which leads to it too
      have hwritten : session.HasFile (Path.ofString request.file).text (Text.encode chars) session :=
        ⟨⟨hproper, rfl, hfound⟩, rfl⟩
      obtain ⟨left, hafter, hleaves, hreports⟩ := settle_spec hsight
        (preserves_sight project request session hwritten).disk.file htext
        ⟨session.shell, rfl, htext ▸ hfirst⟩
      refine ⟨left, ?_, hleaves, fun result hresult => ⟨seen.scanner, hscanner, ?_⟩⟩
      · exact Act.Preserves.after (P := session.HasFile request.file (Text.encode left)) hafter
          fun result => .bind (preserves_present request result) fun _ => .pure _
      · obtain ⟨settled, hsettled, hresult⟩ := Act.result_bind_eq_ok.1 hresult
        obtain ⟨_, -, hresult⟩ := Act.result_bind_eq_ok.1 hresult
        obtain rfl := Option.some.inj (Except.ok.inj hresult)
        exact hreports settled hsettled

/-! ## Keeping -/

theorem preserves_keep (hspares : request.records → project.backend.Spares start.disk file)
    (now : Moment) (result : Option ScanResult) :
    Act.Preserves (start.HasFile file bytes) (keep project request now result) := by
  unfold keep
  cases result with
  | none => exact .pure _
  | some result =>
    dsimp only
    split
    · next hrecords => exact project.preserves_record (hspares hrecords) now result
    · exact .pure _

/-- When all is done, the file is as the look has left it. -/
theorem review_spec (hproper : session.disk.IsProper)
    (hfile : session.disk.find request.file = .ok (.file (Text.encode chars)))
    (hspares : request.records → project.backend.Spares session.disk request.file) :
    ∃ left, session.HasFile request.file (Text.encode left) (review project request session).state ∧
      Fix.Leaves chars left (mended project request session) ∧
      ∀ result, (look project request session).result = .ok (some result) → ∃ scanner,
        (Scanner.ofConfig project.config session.disk.workingPath session).result = .ok scanner ∧
        Reports session.shell.reply scanner request.file left result := by
  obtain ⟨left, hafter, hleaves, hreports⟩ := look_spec hproper hfile
  refine ⟨left, ?_, hleaves, hreports⟩
  rw [state_review]
  exact Act.Preserves.after (P := session.HasFile request.file (Text.encode left)) hafter
    (preserves_keep hspares session.now)

end CodeReview.Checkup
