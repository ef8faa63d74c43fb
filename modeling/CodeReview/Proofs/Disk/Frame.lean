/-
What writing leaves alone. Where a path leads can be read off the path itself (`place_eq_target`), so a
file stays as it is when a file is written, or moved, or a directory is made at paths that lead elsewhere
(`find_withFile_of_ne`, `find_withMoved`, `find_withDirectory`), and when it is written itself it holds
what was written (`find_withFile`).
-/
import CodeReview.Proofs.Disk.Writing

namespace CodeReview

/-! ## Where a path leads -/

namespace Path

variable {pieces blanks : List String} {here : List String}

theorem follow_filter (pieces : List String) (here : List String) :
    follow here (pieces.filter fun p => p ≠ "" && p ≠ ".") = follow here pieces := by
  induction pieces generalizing here with
  | nil => rfl
  | cons piece pieces ih =>
    by_cases hblank : piece = "" ∨ piece = "."
    · have hfilter : (decide (piece ≠ "") && decide (piece ≠ ".")) = false := by
        rcases hblank with rfl | rfl <;> rfl
      rw [List.filter_cons_of_neg (by rw [hfilter]; decide), ih, follow, if_pos (by simpa using hblank)]
    · have hfilter : (fun p => decide (p ≠ "") && decide (p ≠ ".")) piece = true := by
        rw [not_or] at hblank
        simpa using hblank
      rw [List.filter_cons_of_pos (p := fun p => decide (p ≠ "") && decide (p ≠ ".")) hfilter, follow,
        follow]
      simp only [ih]

theorem follow_blanks (hblanks : ∀ b ∈ blanks, b = "" ∨ b = ".") (here pieces : List String) :
    follow here (blanks ++ pieces) = follow here pieces := by
  have hnone : blanks.filter (fun p => p ≠ "" && p ≠ ".") = [] := by
    rw [List.filter_eq_nil_iff]
    intro b hb
    rcases hblanks b hb with rfl | rfl <;> decide
  rw [← follow_filter, List.filter_append, hnone, List.nil_append, follow_filter]

/-- A path begins with a slash if any of its leading slashes count. -/
theorem leadingSlashes_ne_zero (path : String) :
    decide (leadingSlashes path ≠ 0) = path.startsWith "/" := by
  rw [Bool.eq_iff_iff, String.startsWith_string_iff, decide_eq_true_eq]
  unfold leadingSlashes
  cases path.toList with
  | nil => simp
  | cons c rest =>
    rw [List.takeWhile_cons]
    by_cases hc : c = '/'
    · subst hc
      have hprefix : "/".toList <+: '/' :: rest := ⟨rest, rfl⟩
      rw [if_pos (by decide)]
      refine iff_of_true ?_ hprefix
      rw [List.length_cons]
      split
      · next h => exact absurd h (Nat.succ_ne_zero _)
      · decide
      · decide
    · rw [if_neg (by simpa using hc)]
      refine iff_of_false (by simp) ?_
      rintro ⟨more, hmore⟩
      exact hc (List.cons.inj hmore).1.symm

end Path

namespace Disk

variable {d d' : Disk} {path other : String} {new : Bool} {here names places pieces : List String}
  {content bytes : Text.Bytes} {entry : Option Entry}

/-- The place that a path leads to, if it leads anywhere. -/
def target (d : Disk) (path : String) : List String :=
  Path.follow (if path.startsWith "/" then [] else d.workingDirectory) (Path.pieces path)

theorem walk_eq_follow (h : d.walk path new here pieces = .ok names) :
    names = Path.follow here pieces := by
  refine walk_rec (motive := fun here pieces => names = Path.follow here pieces) rfl
    (fun _ hblank ih => ?_) (fun _ ih => ?_) (fun _ hblank hup _ _ _ ih => ?_) h
  · rw [Path.follow, if_pos (by simpa using hblank)]
    exact ih
  · rw [Path.follow, if_neg (by decide), if_pos rfl]
    exact ih
  · rw [Path.follow, if_neg (by simpa using hblank), if_neg hup]
    exact ih

theorem place_eq_target (h : d.place new path = .ok names) : names = d.target path :=
  walk_eq_follow (place_eq_ok_iff.1 h).2.2

/-- A path leads where the path that was written leads. -/
theorem target_text_ofString (d : Disk) (path : String) :
    d.target (Path.ofString path).text = d.target path := by
  have hproper := Path.isProper_ofString path
  obtain ⟨-, blanks, hblanks, hpieces⟩ := Path.pieces_text hproper
  have hstart : (Path.ofString path).text.startsWith "/" = path.startsWith "/" := by
    rw [Path.startsWith_text hproper, ← Path.leadingSlashes_ne_zero path]
    rfl
  unfold target
  rw [hstart, hpieces, Path.follow_blanks hblanks]
  exact Path.follow_filter _ _

/-- A file is found at a path if the path leads there and a file lies there. -/
theorem find_eq_file_iff : d.find path = .ok (.file bytes) ↔
    d.place true path = .ok (d.target path) ∧ d.at? (d.target path) = some (.file bytes) := by
  rw [find_eq_ok_iff]
  constructor
  · rintro ⟨names, hplace, hat⟩
    obtain rfl := place_eq_target hplace
    exact ⟨place_true_of_false hplace, hat⟩
  · rintro ⟨hplace, hat⟩
    exact ⟨_, place_false_of_at? hplace hat, hat⟩

/-- What lies where two paths lead is found at both, if it is found at all. -/
theorem find_eq_of_target {e : Entry} (hfound : d.find path = .ok (.file bytes))
    (hsame : d.target other = d.target path) (hother : d.find other = .ok e) : e = .file bytes := by
  obtain ⟨names, hplace, hat⟩ := find_eq_ok_iff.1 hother
  obtain rfl := place_eq_target hplace
  rw [hsame, (find_eq_file_iff.1 hfound).2] at hat
  exact (Option.some.inj hat).symm

/-! ## Another place -/

/-- The last name of a place where something can be put, and the directory it is in. -/
theorem exists_parent (hplace : d.place true path = .ok places) (hfree : ¬ d.HasDirectory places) :
    ∃ dir name, places = dir ++ [name] ∧ d.HasDirectory dir := by
  obtain ⟨-, -, hwalk⟩ := place_eq_ok_iff.1 hplace
  have hhere : d.HasDirectory (if path.startsWith "/" then [] else d.workingDirectory) := by
    obtain ⟨piece, more, hpieces⟩ :=
      List.exists_cons_of_ne_nil (show Path.pieces path ≠ [] by
        unfold Path.pieces
        rw [ne_eq, List.map_eq_nil_iff]
        exact Text.splitOnChar_ne_nil _ _)
    exact hasDirectory_of_walk (hpieces ▸ hwalk)
  rcases walk_cases hhere hwalk with hsome | hparent
  · obtain ⟨e, he⟩ := Option.isSome_iff_exists.1 hsome
    rcases List.eq_nil_or_concat places with rfl | ⟨dir, name, rfl⟩
    · exact absurd ⟨d.root, rfl⟩ hfree
    · -- what lies in something lies in a directory
      rw [List.concat_eq_append] at he ⊢
      refine ⟨dir, name, rfl, ?_⟩
      have hat : (Entry.directory d.root).at? (dir ++ [name]) = some e := he
      rw [Entry.at?_append] at hat
      obtain ⟨inner, hinner, hlast⟩ := Option.bind_eq_some_iff.1 hat
      cases inner with
      | directory entries => exact ⟨entries, hinner⟩
      | file content => cases hlast
  · exact hparent

/-- A file stays as it is when something is put elsewhere. -/
theorem find_put_of_ne (h : d.find path = .ok (.file bytes))
    (hplace : d.place true other = .ok places) (hfree : ¬ d.HasDirectory places)
    (hne : places ≠ d.target path) : (d.put entry places).find path = .ok (.file bytes) := by
  obtain ⟨hpath, hat⟩ := find_eq_file_iff.1 h
  obtain ⟨dir, name, rfl, hdir⟩ := exists_parent hplace hfree
  refine find_eq_file_iff.2 ⟨place_put hpath hfree, ?_⟩
  exact Entry.at?_update_of_ne hat (Ne.symm hne) hdir hfree

/-- A file that is put where a path leads is found there. -/
theorem find_put (hplace : d.place true path = .ok places) (hfree : ¬ d.HasDirectory places) :
    (d.put (some (.file content)) places).find path = .ok (.file content) := by
  obtain rfl := place_eq_target hplace
  obtain ⟨dir, name, hparent, hdir⟩ := exists_parent hplace hfree
  have hlies : (d.put (some (.file content)) (d.target path)).at? (d.target path) =
      some (.file content) := by
    rw [hparent]
    exact at?_put_some hdir _
  exact find_eq_file_iff.2 ⟨place_put hplace hfree, hlies⟩

/-! ## Writing -/

theorem find_withFile_of_ne (h : d.find path = .ok (.file bytes))
    (hwith : d.withFile other content = .ok d') (hne : d.target other ≠ d.target path) :
    d'.find path = .ok (.file bytes) := by
  obtain ⟨names, hplace, hfree, rfl⟩ := withFile_eq_ok_iff.1 hwith
  exact find_put_of_ne h hplace hfree (place_eq_target hplace ▸ hne)

/-- A file that is written holds what was written. -/
theorem find_of_withFile (h : d.withFile path content = .ok d') : d'.find path = .ok (.file content) := by
  obtain ⟨names, hplace, hfree, rfl⟩ := withFile_eq_ok_iff.1 h
  exact find_put hplace hfree

theorem write_of_ok (h : d.withFile path content = .ok d') :
    write path content d = ⟨.ok (), d', [], []⟩ :=
  Act.tryModify_of_ok h

/-- A file can be written where a file is found, and then holds what was written. -/
theorem find_withFile (content : Text.Bytes) (h : d.find path = .ok (.file bytes))
    (hsame : d.target other = d.target path) {e : Entry} (hother : d.find other = .ok e) :
    ∃ d', d.withFile other content = .ok d' ∧ d'.workingDirectory = d.workingDirectory ∧
      d'.find path = .ok (.file content) := by
  obtain rfl := find_eq_of_target h hsame hother
  obtain ⟨hplace, hat⟩ := find_eq_file_iff.1 hother
  have hfree := not_hasDirectory_of_file hat
  refine ⟨_, withFile_eq_ok_iff.2 ⟨_, hplace, hfree, rfl⟩, rfl, ?_⟩
  obtain ⟨hpath, hfile⟩ := find_eq_file_iff.1 h
  rw [hsame]
  exact find_put hpath (not_hasDirectory_of_file hfile)

theorem find_withDirectory (h : d.find path = .ok (.file bytes))
    (hwith : d.withDirectory other = .ok d') : d'.find path = .ok (.file bytes) := by
  obtain ⟨names, hplace, hnone, rfl⟩ := withDirectory_eq_ok_iff.1 hwith
  refine find_put_of_ne h hplace (not_hasDirectory_of_at?_eq_none hnone) ?_
  rintro rfl
  cases hnone.symm.trans (find_eq_file_iff.1 h).2

/-- A file that is moved goes from one place to another, and neither may be that of the file. -/
theorem find_withMoved {source : String} (hproper : d.IsProper) (h : d.find path = .ok (.file bytes))
    (hwith : d.withMoved source other = .ok d') (hsource : d.target source ≠ d.target path)
    (hne : d.target other ≠ d.target path) : d'.find path = .ok (.file bytes) := by
  obtain ⟨content, hread, sourceNames, hfrom, names, hto, hfree, rfl⟩ := withMoved_eq_ok_iff.1 hwith
  obtain rfl := place_eq_target hfrom
  obtain rfl := place_eq_target hto
  -- what is moved is a file
  have hat : d.at? (d.target source) = some (.file content) := by
    unfold read at hread
    obtain ⟨e, he, hcontent⟩ := Result.bind_eq_ok_iff.1 hread
    cases e with
    | directory entries => cases hcontent
    | file bytes =>
      obtain rfl := Except.ok.inj hcontent
      exact (find_eq_file_iff.1 he).2
  have hsourceFree := not_hasDirectory_of_file hat
  have htaken : (d.put none (d.target source)).find path = .ok (.file bytes) :=
    find_put_of_ne h (place_true_of_false hfrom) hsourceFree hsource
  refine find_put_of_ne htaken (place_put hto hsourceFree) (fun hthere => hfree ?_) hne
  obtain ⟨dir, name, hparent, hdir⟩ := exists_parent (place_true_of_false hfrom) hsourceFree
  rw [hparent] at hthere
  exact Entry.hasDirectory_of_update_none hproper hdir hthere

/-! ## Acts -/

/-- The disk is proper, paths begin where they begin on the disk `start`, and there is a file with some
content at a path. -/
structure HasFile (start : Disk) (path : String) (bytes : Text.Bytes) (d : Disk) : Prop where
  proper : d.IsProper
  directory : d.workingDirectory = start.workingDirectory
  file : d.find path = .ok (.file bytes)

variable {start : Disk}

namespace HasFile

theorem target_eq (h : start.HasFile path bytes d) (other : String) :
    d.target other = start.target other := by
  unfold target
  rw [h.directory]

theorem withFile (h : start.HasFile path bytes d) (hne : start.target other ≠ start.target path)
    (hwith : d.withFile other content = .ok d') : start.HasFile path bytes d' := by
  have hfile := find_withFile_of_ne h.file hwith (by rwa [h.target_eq, h.target_eq])
  obtain ⟨names, -, -, rfl⟩ := withFile_eq_ok_iff.1 hwith
  exact ⟨h.proper.put_some (Entry.isProper_file content), h.directory, hfile⟩

/-- The file written anew. -/
theorem withFile_self (h : start.HasFile path bytes d) (hsame : start.target other = start.target path)
    {e : Entry} (hother : d.find other = .ok e) :
    ∃ d', d.withFile other content = .ok d' ∧ start.HasFile path content d' := by
  obtain ⟨d', hwith, hdirectory, hfile⟩ :=
    find_withFile content h.file (by rwa [h.target_eq, h.target_eq]) hother
  refine ⟨d', hwith, ?_, hdirectory.trans h.directory, hfile⟩
  obtain ⟨names, -, -, rfl⟩ := withFile_eq_ok_iff.1 hwith
  exact h.proper.put_some (Entry.isProper_file content)

theorem withDirectory (h : start.HasFile path bytes d) (hwith : d.withDirectory other = .ok d') :
    start.HasFile path bytes d' := by
  have hfile := find_withDirectory h.file hwith
  obtain ⟨names, -, -, rfl⟩ := withDirectory_eq_ok_iff.1 hwith
  exact ⟨h.proper.put_some isProper_directory_nil, h.directory, hfile⟩

theorem withMoved {source : String} (h : start.HasFile path bytes d)
    (hsource : start.target source ≠ start.target path)
    (hne : start.target other ≠ start.target path) (hwith : d.withMoved source other = .ok d') :
    start.HasFile path bytes d' := by
  have hfile := find_withMoved h.proper h.file hwith (by rwa [h.target_eq, h.target_eq])
    (by rwa [h.target_eq, h.target_eq])
  obtain ⟨content, -, sourceNames, -, names, -, -, rfl⟩ := withMoved_eq_ok_iff.1 hwith
  have hremoved : (d.put none sourceNames).IsProper := h.proper.put nofun
  exact ⟨hremoved.put_some (Entry.isProper_file content), h.directory, hfile⟩

end HasFile

theorem preserves_ensureDirectory (p : Path) :
    Act.Preserves (start.HasFile path bytes) (ensureDirectory p) := by
  unfold ensureDirectory
  refine .bind (.attempt (.tryModify fun d d' h hwith => h.withDirectory hwith)) fun made => ?_
  cases made with
  | ok _ => exact .pure _
  | error fault =>
    refine .bind .get fun d => ?_
    split
    · exact .pure _
    · exact .fail _

theorem preserves_ensureDirectories (depth : ℕ) (p : Path) :
    Act.Preserves (start.HasFile path bytes) (ensureDirectories depth p) := by
  induction depth generalizing p with
  | zero => exact preserves_ensureDirectory p
  | succ depth ih =>
    unfold ensureDirectories
    refine .bind (.attempt (preserves_ensureDirectory p)) fun made => ?_
    split
    · exact .pure _
    · split
      · exact .fail _
      · exact .bind (ih _) fun _ => preserves_ensureDirectory p
    · exact .fail _

/-- Making directories leaves files alone. -/
theorem preserves_makeDirectories (p : Path) :
    Act.Preserves (start.HasFile path bytes) (makeDirectories p) := preserves_ensureDirectories _ p

end Disk

end CodeReview
