/-
The history in a JSON file. Where an empty history can be written any can (`IsWritable.opens`): the
directory is made, and no other directory ever comes to lie where the file and its draft are to be. What
was saved last is what is loaded, if all its entries are legible (`keepsEntries`).
-/
import CodeReview.Proofs.Disk.Writing
import CodeReview.Proofs.Store.Entries
import CodeReview.Proofs.Text.Utf8

namespace CodeReview.JsonFile

variable {path beside : Path} {d : Disk} {dir : List String} {content : Text.Bytes} {document : Json}

/-! ## The directory of the file -/

/-- The name of the draft. -/
def draftName (path : Path) : String := path.name ++ ".tmp"

/-- The directory of the file is there, and no directory lies where the file, or the draft `beside` it, is
to be. -/
structure IsReady (path beside : Path) (dir : List String) (d : Disk) : Prop where
  proper : d.IsProper
  parent : d.place true path.parent.text = .ok dir
  directory : d.HasDirectory dir
  place : d.place true path.text = .ok (dir ++ [path.name])
  draft : JsonFile.draft path = .ok beside
  draft_place : d.place true beside.text = .ok (dir ++ [draftName path])
  free : ¬ d.HasDirectory (dir ++ [path.name])
  draft_free : ¬ d.HasDirectory (dir ++ [draftName path])

namespace IsReady

variable {name : String} {entry : Option Entry}

/-- It stays so when a file comes or goes beside it or in its place. -/
theorem put (h : IsReady path beside dir d) (hname : ¬ d.HasDirectory (dir ++ [name]))
    (hentry : ∀ e, entry = some e → ∃ content, e = .file content) :
    IsReady path beside dir (d.put entry (dir ++ [name])) := by
  have hfree (other : String) (hother : ¬ d.HasDirectory (dir ++ [other])) :
      ¬ (d.put entry (dir ++ [name])).HasDirectory (dir ++ [other]) := by
    rintro ⟨entries, hentries⟩
    have hat : (d.put entry (dir ++ [name])).at? (dir ++ [other]) = some (.directory entries) := hentries
    rcases eq_or_ne other name with rfl | hne
    · rw [Disk.at?_put_self h.proper h.directory] at hat
      obtain ⟨content, hcontent⟩ := hentry _ hat
      cases hcontent
    · rw [Disk.at?_put_of_ne h.directory hne] at hat
      exact hother ⟨entries, hat⟩
  constructor
  · refine h.proper.put fun e he => ?_
    obtain ⟨content, rfl⟩ := hentry e he
    exact Entry.isProper_file content
  · exact Disk.place_put h.parent hname
  · exact h.directory.put hname
  · exact Disk.place_put h.place hname
  · exact h.draft
  · exact Disk.place_put h.draft_place hname
  · exact hfree _ h.free
  · exact hfree _ h.draft_free

theorem put_file (h : IsReady path beside dir d) (hname : ¬ d.HasDirectory (dir ++ [name]))
    (content : Text.Bytes) : IsReady path beside dir (d.put (some (.file content)) (dir ++ [name])) :=
  h.put hname fun _ he => ⟨content, (Option.some.inj he).symm⟩

theorem put_none (h : IsReady path beside dir d) (hname : ¬ d.HasDirectory (dir ++ [name])) :
    IsReady path beside dir (d.put none (dir ++ [name])) := h.put hname nofun

/-- The directory need not be made. -/
theorem makeDirectories_yields (h : IsReady path beside dir d) :
    (Disk.makeDirectories path.parent).Yields d () (IsReady path beside dir) := by
  obtain ⟨entries, hentries⟩ := h.directory
  have hthere : d.isDirectory path.parent.text = true :=
    Disk.isDirectory_iff.2 ⟨dir, Disk.place_false_of_at? h.parent hentries, h.directory⟩
  exact (Disk.makeDirectories_of_isDirectory hthere).imp fun d' hd' => hd' ▸ h

end IsReady

/-- The file holds a text. -/
def HasText (path beside : Path) (dir : List String) (text : List Char) (d : Disk) : Prop :=
  IsReady path beside dir d ∧ d.at? (dir ++ [path.name]) = some (.file (Text.encode text))

/-- The draft is written where no directory lies. -/
theorem write_yields (h : IsReady path beside dir d) (content : Text.Bytes) :
    (Disk.write beside.text content).Yields d () fun d' =>
      IsReady path beside dir d' ∧ d'.at? (dir ++ [draftName path]) = some (.file content) := by
  have hplaced : d.withFile beside.text content =
      .ok (d.put (some (.file content)) (dir ++ [draftName path])) :=
    Disk.withFile_eq_ok_iff.2 ⟨_, h.draft_place, h.draft_free, rfl⟩
  exact .tryModify hplaced ⟨h.put_file h.draft_free content, Disk.at?_put_self h.proper h.directory⟩

/-- The draft is moved over the file. -/
theorem move_yields (h : IsReady path beside dir d)
    (hdraft : d.at? (dir ++ [draftName path]) = some (.file content)) :
    (Act.tryModify (·.withMoved beside.text path.text)).Yields d () fun d' =>
      IsReady path beside dir d' ∧ d'.at? (dir ++ [path.name]) = some (.file content) := by
  have hremoved : IsReady path beside dir (d.put none (dir ++ [draftName path])) :=
    h.put_none h.draft_free
  refine .tryModify (Disk.withMoved_eq_ok_iff.2 ⟨content, Disk.read_of_at? h.draft_place hdraft, _,
    Disk.place_false_of_at? h.draft_place hdraft, _, h.place, h.free, rfl⟩) ⟨?_, ?_⟩
  · exact hremoved.put_file hremoved.free content
  · exact Disk.at?_put_self hremoved.proper hremoved.directory

/-- A document that can be written is written beside the file and moved over it. -/
theorem save_yields (hopens : (Disk.makeDirectories path.parent).Yields d () (IsReady path beside dir))
    {text : List Char} (hwrite : Json.write document = .ok text) :
    (save path document).Yields d () (HasText path beside dir text) := by
  unfold save
  refine .bind hopens fun d₁ h₁ => ?_
  rw [h₁.draft, hwrite]
  refine .bind (P := IsReady path beside dir) (.ofExcept h₁) fun d₂ h₂ => ?_
  refine .bind (P := IsReady path beside dir) (.ofExcept h₂) fun d₃ h₃ => ?_
  exact .bind (write_yields h₃ _) fun d₄ h₄ => move_yields h₄.1 h₄.2

/-- Of a document that cannot be written no more is left than the directory of the file. -/
theorem save_of_not_written (hopens : (Disk.makeDirectories path.parent).Yields d () (IsReady path beside dir))
    {e : Json.WriteError} (hwrite : Json.write document = .error e) :
    (save path document d).result = .error e.fault ∧
      (save path document d).state = (Disk.makeDirectories path.parent d).state := by
  have hdraft := hopens.state.draft
  unfold save
  rw [Act.bind_ok hopens.result, hdraft, hwrite]
  exact ⟨rfl, rfl⟩

theorem readText_of_hasText {text : List Char} (h : HasText path beside dir text d) (hreturn : '\r' ∉ text) :
    d.readText path.text = .ok text := by
  have hfind : d.find path.text = .ok (.file (Text.encode text)) := by
    rw [Disk.find_of_place h.1.place, h.2]
  rw [Disk.readText_of_find hfind (Text.decode_encode text), Text.normalizeNewlines_eq_self hreturn]

/-- What is legible is loaded from its text. -/
theorem load_yields_of_hasText (h : HasText path beside dir document.text d)
    (hlegible : Json.Legible Json.maxDepth document) (hdocument : documentOf? document = some document) :
    (load path).Yields d document (HasText path beside dir document.text) := by
  have hreturn : '\r' ∉ document.text := Json.return_notMem_writeAt 0 document
  unfold load
  refine .bind (P := (· = d)) ⟨rfl, rfl⟩ fun _ hsame => ?_
  subst hsame
  rw [Disk.has_of_at? h.1.place h.2, readText_of_hasText h hreturn]
  refine .bind (.ofExcept h) fun d₁ h₁ => ?_
  refine .bind (.ofExcept h₁) fun d₂ h₂ => ?_
  rw [Json.read_text hlegible]
  refine .bind (.ofExcept h₂) fun d₃ h₃ => ?_
  rw [hdocument]
  exact .pure h₃

theorem load_of_absent (h : d.has path.text = .ok false) :
    (load path).Yields d Store.emptyDocument (· = d) := by
  unfold load
  refine .bind (P := (· = d)) ⟨rfl, rfl⟩ ?_
  rintro d₁ rfl
  rw [h]
  exact .bind (P := (· = d₁)) (.ofExcept rfl) fun d₂ h₂ => .pure h₂

/-- The file is deleted. -/
theorem clear_yields {text : List Char} (h : HasText path beside dir text d) :
    (clear path).Yields d () fun d' =>
      IsReady path beside dir d' ∧ d'.has path.text = .ok false := by
  unfold clear
  refine .bind (P := (· = d)) ⟨rfl, rfl⟩ ?_
  rintro d₁ rfl
  rw [Disk.has_of_at? h.1.place h.2]
  refine .bind (.ofExcept h) fun d₂ h₂ => ?_
  have hremoved : IsReady path beside dir (d₂.put none (dir ++ [path.name])) := h₂.1.put_none h₂.1.free
  refine .bind (.tryModify (Disk.withoutFile_of_at? h₂.1.place h₂.2) ⟨hremoved, ?_⟩)
    fun d₃ h₃ => ⟨rfl, h₃⟩
  exact Disk.has_of_at?_eq_none hremoved.place (Disk.at?_put_self h₂.1.proper h₂.1.directory)

theorem clear_of_absent (h : d.has path.text = .ok false) : (clear path).Yields d () (· = d) := by
  unfold clear
  refine .bind (P := (· = d)) ⟨rfl, rfl⟩ ?_
  rintro d₁ rfl
  rw [h]
  exact .bind (P := (· = d₁)) (.ofExcept rfl) fun d₂ h₂ => .pure h₂

/-! ## Where a file can be written -/

/-- An empty history can be written to the file. -/
def IsWritable (path : Path) (d : Disk) : Prop := (save path Store.emptyDocument d).result = .ok ()

theorem draft_eq_ok_iff : draft path = .ok beside ↔ path.name ≠ "" ∧
    { path with parts := path.parts.dropLast ++ [draftName path] } = beside := by
  unfold draft Path.appendToName? draftName
  split_ifs with hname
  · exact iff_of_false nofun fun h => h.1 hname
  · exact ⟨fun h => ⟨hname, Except.ok.inj h⟩, fun h => congrArg Except.ok h.2⟩

theorem slash_notMem_draftName (h : '/' ∉ path.name.toList) : '/' ∉ (draftName path).toList := by
  unfold draftName
  rw [String.toList_append, List.mem_append]
  exact not_or.2 ⟨h, by decide⟩

theorem draftName_ne {name : String} (h : name.toList.length ≤ 2) : draftName path ≠ name := by
  rintro rfl
  unfold draftName at h
  rw [String.toList_append, List.length_append] at h
  have hsuffix : ".tmp".toList.length = 4 := rfl
  omega

theorem isProper_draft (hp : path.IsProper) (h : draft path = .ok beside) : beside.IsProper := by
  obtain ⟨hname, rfl⟩ := draft_eq_ok_iff.1 h
  intro part hpart
  rcases List.mem_append.1 hpart with hpart | hpart
  · exact hp.parent part hpart
  · rw [List.mem_singleton.1 hpart]
    exact ⟨draftName_ne (by decide), draftName_ne (by decide),
      slash_notMem_draftName (hp _ (Path.name_mem_parts hname)).2.2⟩

theorem parent_draft (h : draft path = .ok beside) : beside.parent = path.parent := by
  obtain ⟨-, rfl⟩ := draft_eq_ok_iff.1 h
  unfold Path.parent
  rw [List.dropLast_concat]

theorem name_draft (h : draft path = .ok beside) : beside.name = draftName path := by
  obtain ⟨-, rfl⟩ := draft_eq_ok_iff.1 h
  unfold Path.name
  rw [List.getLast?_concat]
  rfl

theorem IsReady.isWritable (h : IsReady path beside dir d) : IsWritable path d :=
  (save_yields h.makeDirectories_yields rfl).result

/-- Where a draft can be written and moved over the file, both have their place in the directory. -/
theorem isReady_of_moved {d₂ d₃ : Disk} (hp : path.IsProper) (hproper : d.IsProper)
    (hparent : d.place false path.parent.text = .ok dir) (hdir : d.HasDirectory dir)
    (hdraft : draft path = .ok beside) (hwrite : d.withFile beside.text content = .ok d₂)
    (hmove : d₂.withMoved beside.text path.text = .ok d₃) : IsReady path beside dir d := by
  have hparentNew := Disk.place_true_of_false hparent
  have hbesideName := name_draft hdraft
  have hname : path.name ≠ "" := (draft_eq_ok_iff.1 hdraft).1
  -- the draft goes into the directory
  obtain ⟨names, hplace, hfree, rfl⟩ := Disk.withFile_eq_ok_iff.1 hwrite
  obtain ⟨-, -, rfl⟩ := (Disk.place_child_iff (isProper_draft hp hdraft)
    (hbesideName ▸ draftName_ne (by decide)) (hbesideName ▸ draftName_ne (by decide))
    (parent_draft hdraft ▸ hparent) hdir).1 hplace
  rw [hbesideName] at hplace hfree hmove
  -- and the file too, as long as its name does not lead up and out of it
  obtain ⟨-, -, -, -, names, htarget, htargetFree, -⟩ := Disk.withMoved_eq_ok_iff.1 hmove
  have hdir₂ : (d.put (some (.file content)) (dir ++ [draftName path])).HasDirectory dir :=
    hdir.put hfree
  obtain ⟨entries, hentries⟩ := hdir₂
  have hparent₂ := Disk.place_false_of_at? (Disk.place_put hparentNew hfree) hentries
  have hup : path.name ≠ ".." := by
    intro hup
    have hwalk := ((Disk.place_of_parent hp hname hparent₂).1 htarget).2
    rw [hup, Disk.walk_up ⟨entries, hentries⟩] at hwalk
    injection hwalk with hnames
    exact htargetFree (hnames ▸ Disk.HasDirectory.dropLast ⟨entries, hentries⟩)
  obtain ⟨htakes, hsize, rfl⟩ :=
    (Disk.place_child_iff hp hname hup hparent₂ ⟨entries, hentries⟩).1 htarget
  exact {
    proper := hproper
    parent := hparentNew
    directory := hdir
    place := (Disk.place_child_iff hp hname hup hparent hdir).2 ⟨htakes, hsize, rfl⟩
    draft := hdraft
    draft_place := hplace
    free := fun hthere => htargetFree (hthere.put hfree)
    draft_free := hfree }

/-- Where an empty history can be written any document can. -/
theorem IsWritable.opens (h : IsWritable path d) (hp : path.IsProper) (hproper : d.IsProper) :
    ∃ beside dir, (Disk.makeDirectories path.parent).Yields d () (IsReady path beside dir) := by
  obtain ⟨_, hmake, h⟩ := Act.result_bind_eq_ok.1 h
  obtain ⟨beside, hdraft, h⟩ := Act.result_bind_eq_ok.1 h
  obtain ⟨text, -, h⟩ := Act.result_bind_eq_ok.1 h
  obtain ⟨_, hwrite, h⟩ := Act.result_bind_eq_ok.1 h
  obtain ⟨d₂, hwrite, hd₂⟩ := Act.tryModify_eq_ok_iff.1 hwrite
  obtain ⟨d₃, hmove, -⟩ := Act.tryModify_eq_ok_iff.1 h
  obtain ⟨hproper₁, hthere⟩ := Disk.makeDirectories_spec hp.parent hproper
  obtain ⟨dir, hparent, hdir⟩ := Disk.isDirectory_iff.1 (hthere hmake)
  have hmoved : d₂.withMoved beside.text path.text = .ok d₃ := hd₂ ▸ hmove
  exact ⟨beside, dir, hmake, isReady_of_moved hp hproper₁ hparent hdir hdraft hwrite hmoved⟩

/-! ## The history in the file -/

/-- The file holds the text of a history with some entries, or there is no file yet and no entry, but the
file can be written. -/
inductive Holds (path : Path) (d : Disk) : List History.Kept → Prop
  | absent {beside : Path} {dir : List String} (hnone : d.has path.text = .ok false)
      (hopens : (Disk.makeDirectories path.parent).Yields d () (IsReady path beside dir)) :
      Holds path d []
  | written {beside : Path} {dir : List String} {entries : List History.Kept}
      (htext : HasText path beside dir (Store.documentWith entries).text d) :
      Holds path d entries

/-- Entries are kept in the file if they are legible. -/
theorem keepsEntries (path : Path) : (store path).KeepsEntries (Holds path) where
  load h hlegible := by
    cases h with
    | absent hnone hopens => exact (load_of_absent hnone).imp fun d hd => hd ▸ .absent hnone hopens
    | written htext =>
      have hloaded := load_yields_of_hasText htext (Store.legible_documentWith hlegible) rfl
      exact hloaded.imp fun d hd => .written hd
  save h next hlegible := by
    have hwrite := (Store.legible_documentWith hlegible).write_eq
    cases h with
    | absent _ hopens => exact (save_yields hopens hwrite).imp fun d hd => .written hd
    | written htext =>
      exact (save_yields htext.1.makeDirectories_yields hwrite).imp fun d hd => .written hd
  clear h := by
    cases h with
    | absent hnone hopens => exact (clear_of_absent hnone).imp fun d hd => hd ▸ .absent hnone hopens
    | written htext =>
      exact (clear_yields htext).imp fun d hd => .absent hd.2 hd.1.makeDirectories_yields

/-- No file yet, where one can be written. -/
theorem IsWritable.holds_nil (h : IsWritable path d) (hp : path.IsProper) (hproper : d.IsProper)
    (hnone : d.has path.text = .ok false) : Holds path d [] := by
  obtain ⟨beside, dir, hopens⟩ := h.opens hp hproper
  exact .absent hnone hopens

end CodeReview.JsonFile
