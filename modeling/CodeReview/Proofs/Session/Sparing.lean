/-
What keeping a history leaves alone. A file stays as it is when the history is read or written, unless it
is the history's file or its draft (`Backend.Spares`), and so it does when a review is recorded
(`preserves_record`). How the shell answers commands stays the same in any case.
-/
import CodeReview.Proofs.Disk.Frame
import CodeReview.Proofs.History.Steps
import CodeReview.Proofs.Scan.Repeating
import CodeReview.Session.Project

namespace CodeReview

/-! ## A JSON file -/

namespace JsonFile

variable {path : Path} {start : Disk} {file : String} {bytes : Text.Bytes}

/-- Another file than the one at `path` and its draft. -/
structure Spares (path : Path) (d : Disk) (file : String) : Prop where
  target : d.target path.text ≠ d.target file
  draft (beside : Path) (h : JsonFile.draft path = .ok beside) : d.target beside.text ≠ d.target file

theorem preserves_load {P : Disk → Prop} (path : Path) : Act.Preserves P (load path) := by
  unfold load
  refine .bind .get fun d => .bind (.ofExcept _) fun there => ?_
  split
  · refine .bind (.ofExcept _) fun text => .bind (.ofExcept _) fun value => ?_
    split
    · exact .pure _
    · exact .fail _
  · exact .pure _

/-- Only the file and its draft are written. -/
theorem preserves_save (h : Spares path start file) (document : Json) :
    Act.Preserves (start.HasFile file bytes) (save path document) := by
  unfold save
  refine .bind (Disk.preserves_makeDirectories _) fun _ => ?_
  cases hdraft : draft path with
  | error fault => exact fun d hd => hd
  | ok beside =>
    have hbeside := h.draft beside hdraft
    rw [Act.ofExcept_ok, pure_bind]
    refine .bind (.ofExcept _) fun text => ?_
    refine .bind (.tryModify fun d d' hd hwith => hd.withFile hbeside hwith) fun _ => ?_
    exact .tryModify fun d d' hd hwith => hd.withMoved hbeside h.target hwith

end JsonFile

/-! ## A history -/

/-- What the store keeps is kept when a review is recorded. -/
theorem History.preserves_record {σ : Type} {P : σ → Prop} {h : History σ}
    (hload : Act.Preserves P h.store.load) (hsave : ∀ document, Act.Preserves P (h.store.save document))
    (scan : ScanResult) : Act.Preserves P (h.record scan) := by
  intro s hs
  rw [state_record]
  split
  · exact hs
  · split
    · exact hsave _ _ (hload s hs)
    · exact hload s hs

/-! ## A session -/

/-- A file that does not hold what the backend keeps, nor a draft of it. -/
def Backend.Spares (d : Disk) (file : String) : Backend → Prop
  | .file path => JsonFile.Spares path d file
  | .nothing | .gist _ => True

/-- The file has some content, and commands are answered as in the session `start`. -/
structure Session.HasFile (start : Session) (file : String) (bytes : Text.Bytes) (session : Session) :
    Prop where
  disk : start.disk.HasFile file bytes session.disk
  reply : Shell.Answers start.shell.reply session.shell

variable {start : Session} {file : String} {bytes : Text.Bytes} {backend : Backend}

theorem Backend.preserves_load (backend : Backend) :
    Act.Preserves (start.HasFile file bytes) backend.store.load := by
  cases backend with
  | nothing => exact .pure _
  | file path =>
    exact (JsonFile.preserves_load path).within (fun _ h => h.disk) fun _ _ h hd => ⟨hd, h.reply⟩
  | gist id => exact fun _ h => ⟨h.disk, h.reply⟩

theorem Backend.preserves_save (h : backend.Spares start.disk file) (document : Json) :
    Act.Preserves (start.HasFile file bytes) (backend.store.save document) := by
  cases backend with
  | nothing => exact .pure _
  | file path =>
    exact (JsonFile.preserves_save h document).within (fun _ h => h.disk) fun _ _ h hd => ⟨hd, h.reply⟩
  | gist id => exact fun _ h => ⟨h.disk, h.reply⟩

/-- Recording a review leaves a file alone that the backend spares. -/
theorem Project.preserves_record (project : Project) (h : project.backend.Spares start.disk file)
    (now : Moment) (scan : ScanResult) :
    Act.Preserves (start.HasFile file bytes) ((project.history now).record scan) :=
  History.preserves_record project.backend.preserves_load (Backend.preserves_save h) scan

end CodeReview
