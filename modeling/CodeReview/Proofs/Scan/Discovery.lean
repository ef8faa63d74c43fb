/-
Discovery enters a directory unless the patterns leave it out; a scanner leaves out files. Discovery
asks for the directory as it lies below the path that is searched, the scanner for the file as it lies
below the root of the configuration. `mem_sources_iff` says which files discovery finds, and
`sources_covers_iff` when these are all the source files that the scanner does not leave out.
-/
import CodeReview.Proofs.Config.Exclusion
import CodeReview.Scan.Discovery
import CodeReview.Scan.Scanner

namespace CodeReview

/-! ## Names and paths -/

namespace Path

theorem endsWith_slash_iff {path : String} :
    path.endsWith "/" = true ↔ path.toList.getLast? = some '/' := by
  rw [← String.endsWith_toSlice, String.Slice.endsWith_string_iff,
    ← List.singleton_suffix_iff_getLast?_eq_some]
  simp

/-- A name in a directory follows what the directory alone puts before any name. -/
theorem toList_join (directory name : String) :
    (join directory name).toList = (join directory "").toList ++ name.toList := by
  unfold join
  split <;> simp

/-- What a directory in a directory puts before any name. -/
theorem toList_join_join {directory name : String} (hne : name ≠ "")
    (hslash : '/' ∉ name.toList) :
    (join (join directory name) "").toList = (join directory "").toList ++ name.toList ++ ['/'] := by
  have hname : name.toList ≠ [] := by simpa using hne
  have hempty : join directory name ≠ "" := by
    intro h
    have hnil := toList_join directory name
    rw [h] at hnil
    exact hname (List.append_eq_nil_iff.1 hnil.symm).2
  have hlast : ¬ (join directory name).endsWith "/" = true := by
    rw [endsWith_slash_iff, toList_join, List.getLast?_append_of_ne_nil _ hname]
    exact fun h => hslash (List.mem_of_getLast? h)
  rw [← toList_join]
  generalize join directory name = inside at hempty hlast ⊢
  unfold join
  rw [if_neg (by simp [hempty, hlast])]
  simp

end Path

/-- The names in a tree: none is empty or has a slash. -/
inductive Entry.WellNamed : Entry → Prop where
  | file {content : Text.Bytes} : WellNamed (.file content)
  | directory {entries : List (String × Entry)}
      (names : ∀ p ∈ entries, p.1 ≠ "" ∧ '/' ∉ p.1.toList)
      (inside : ∀ p ∈ entries, WellNamed p.2) : WellNamed (.directory entries)

theorem Entry.WellNamed.name {entries : List (String × Entry)} {p : String × Entry}
    (h : (Entry.directory entries).WellNamed) (hp : p ∈ entries) :
    p.1 ≠ "" ∧ '/' ∉ p.1.toList := by
  cases h with
  | directory names inside => exact names p hp

theorem Entry.WellNamed.entry {entries : List (String × Entry)} {p : String × Entry}
    (h : (Entry.directory entries).WellNamed) (hp : p ∈ entries) : p.2.WellNamed := by
  cases h with
  | directory names inside => exact inside p hp

namespace Discovery

/-- A source file below an entry at a path, by way of the directories at some paths, from above. -/
inductive SourceAt : String → Entry → List String → String → Prop where
  | here {path name : String} {entries : List (String × Entry)} {content : Text.Bytes}
      (mem : (name, .file content) ∈ entries) (source : isSource name = true) :
      SourceAt path (.directory entries) [] (Path.join path name)
  | inside {path name file : String} {entries inner : List (String × Entry)} {dirs : List String}
      (mem : (name, .directory inner) ∈ entries)
      (below : SourceAt (Path.join path name) (.directory inner) dirs file) :
      SourceAt path (.directory entries) (Path.join path name :: dirs) file

/-- A source file below an entry that is reached without entering a directory that is left out. -/
def Reached (out : String → Bool) (path : String) (entry : Entry) (file : String) : Prop :=
  ∃ dirs, SourceAt path entry dirs file ∧ ∀ dir ∈ dirs, out (dir ++ "/") = false

variable {out : String → Bool} {path file : String} {entries : List (String × Entry)}

/-! ## The way to a file -/

namespace SourceAt

variable {entry entry' : Entry} {dirs dirs' : List String}

theorem starts (h : SourceAt path entry dirs file) (hnamed : entry.WellNamed) :
    ∃ rest, file.toList = (Path.join path "").toList ++ rest := by
  induction h with
  | here mem source => exact ⟨_, Path.toList_join ..⟩
  | inside mem below ih =>
    obtain ⟨rest, hrest⟩ := ih (hnamed.entry mem)
    rw [Path.toList_join_join (hnamed.name mem).1 (hnamed.name mem).2, List.append_assoc,
      List.append_assoc] at hrest
    exact ⟨_, hrest⟩

/-- A file in a directory below a path has the name of the directory, and then a slash, after what
every file there begins with. -/
theorem starts_inside {name : String} (hname : name ≠ "" ∧ '/' ∉ name.toList)
    (h : SourceAt (Path.join path name) entry dirs file) (hnamed : entry.WellNamed) :
    ∃ rest, file.toList = (Path.join path "").toList ++ (name.toList ++ '/' :: rest) := by
  obtain ⟨rest, hrest⟩ := h.starts hnamed
  rw [Path.toList_join_join hname.1 hname.2, List.append_assoc, List.append_assoc] at hrest
  exact ⟨rest, hrest⟩

/-- A file in a directory is in no other place the file of a name. -/
theorem join_ne {name name' : String} (hslash : '/' ∉ name.toList)
    (hname' : name' ≠ "" ∧ '/' ∉ name'.toList)
    (h : SourceAt (Path.join path name') entry dirs file) (hnamed : entry.WellNamed) :
    file ≠ Path.join path name := by
  rintro rfl
  obtain ⟨rest, hrest⟩ := h.starts_inside hname' hnamed
  rw [Path.toList_join] at hrest
  have hname : name.toList = name'.toList ++ '/' :: rest := List.append_cancel_left hrest
  rw [hname] at hslash
  exact hslash (by simp)

/-- The path of a file tells the directories on the way to it. -/
theorem dirs_eq (h : SourceAt path entry dirs file) (hnamed : entry.WellNamed)
    (h' : SourceAt path entry' dirs' file) (hnamed' : entry'.WellNamed) : dirs = dirs' := by
  induction h generalizing entry' dirs' with
  | @here path name entries content mem source =>
    generalize hfile : Path.join path name = file at h'
    cases h' with
    | here mem' source' => rfl
    | inside mem' below' =>
      exact absurd hfile.symm
        (below'.join_ne (hnamed.name mem).2 (hnamed'.name mem') (hnamed'.entry mem'))
  | @inside path name file entries inner dirs mem below ih =>
    cases h' with
    | here mem' source' =>
      exact absurd rfl (below.join_ne (hnamed'.name mem').2 (hnamed.name mem) (hnamed.entry mem))
    | @inside _ name' _ _ inner' _ mem' below' =>
      obtain ⟨rest, hrest⟩ := below.starts_inside (hnamed.name mem) (hnamed.entry mem)
      obtain ⟨rest', hrest'⟩ := below'.starts_inside (hnamed'.name mem') (hnamed'.entry mem')
      have hname : name.toList = name'.toList :=
        eq_of_append_cons_eq (hnamed.name mem).2 (hnamed'.name mem').2
          (List.append_cancel_left (hrest.symm.trans hrest'))
      cases String.toList_injective hname
      rw [ih (hnamed.entry mem) below' (hnamed'.entry mem')]

end SourceAt

/-! ## What discovery finds -/

theorem mem_sourceNames_iff {name : String} :
    name ∈ sourceNames entries ↔
      isSource name = true ∧ ∃ content, (name, .file content) ∈ entries := by
  unfold sourceNames
  rw [List.mem_mergeSort, List.mem_filterMap]
  constructor
  · rintro ⟨⟨n, entry⟩, hmem, h⟩
    cases entry with
    | directory inner => cases h
    | file content =>
      dsimp only at h
      split at h
      · next hsource => cases h; exact ⟨hsource, content, hmem⟩
      · cases h
  · rintro ⟨hsource, content, hmem⟩
    exact ⟨(name, .file content), hmem, by simp [hsource]⟩

theorem not_reached_file {content : Text.Bytes} : ¬ Reached out path (.file content) file := by
  rintro ⟨dirs, h, -⟩
  cases h

theorem reached_directory_iff :
    Reached out path (.directory entries) file ↔
      (∃ name ∈ sourceNames entries, Path.join path name = file) ∨
      ∃ name inner, (name, Entry.directory inner) ∈ entries ∧
        out (Path.join path name ++ "/") = false ∧
        Reached out (Path.join path name) (.directory inner) file := by
  constructor
  · rintro ⟨dirs, h, hdirs⟩
    cases h with
    | here mem source => exact .inl ⟨_, mem_sourceNames_iff.2 ⟨source, _, mem⟩, rfl⟩
    | inside mem below =>
      obtain ⟨hdir, hdirs⟩ := List.forall_mem_cons.1 hdirs
      exact .inr ⟨_, _, mem, hdir, _, below, hdirs⟩
  · rintro (⟨name, hname, rfl⟩ | ⟨name, inner, hmem, hdir, dirs, hbelow, hdirs⟩)
    · obtain ⟨hsource, content, hmem⟩ := mem_sourceNames_iff.1 hname
      exact ⟨[], .here hmem hsource, by simp⟩
    · exact ⟨_, .inside hmem hbelow, List.forall_mem_cons.2 ⟨hdir, hdirs⟩⟩

theorem exists_directory_cons {name : String} {inner rest : List (String × Entry)}
    {P : String → List (String × Entry) → Prop} :
    (∃ n i, (n, Entry.directory i) ∈ (name, .directory inner) :: rest ∧ P n i) ↔
      P name inner ∨ ∃ n i, (n, Entry.directory i) ∈ rest ∧ P n i := by
  simp [or_and_right, exists_or, and_assoc]

/-- Where the test for directories always answers, discovery succeeds and finds the files that are
reached. -/
theorem mem_below_iff (out : String → Bool) (path : String) (entry : Entry) :
    ∃ files, below (fun p => .ok (out p)) path entry = .ok files ∧
      ∀ file, file ∈ files ↔ Reached out path entry file := by
  induction path, entry using below.induct
    (motive_2 := fun path entries =>
      ∃ each, belowEach (fun p => .ok (out p)) path entries = .ok each ∧
        ∀ file, (∃ p ∈ each, file ∈ p.2) ↔ ∃ name inner, (name, Entry.directory inner) ∈ entries ∧
          out (Path.join path name ++ "/") = false ∧
          Reached out (Path.join path name) (.directory inner) file) with
  | case1 path content =>
    exact ⟨[], by rw [below], fun file => by simp [not_reached_file]⟩
  | case2 path entries ih =>
    obtain ⟨each, heach, hmem⟩ := ih
    refine ⟨_, by rw [below, heach]; rfl, fun file => ?_⟩
    rw [reached_directory_iff, ← hmem file]
    simp
  | case3 path => exact ⟨[], by rw [belowEach], by simp⟩
  | case4 path name rest content ih =>
    obtain ⟨each, heach, hmem⟩ := ih
    refine ⟨each, by rw [belowEach, heach], fun file => ?_⟩
    rw [hmem file]
    simp
  | case5 path name rest inner inside ihrest ihinner =>
    obtain ⟨each, heach, hmem⟩ := ihrest
    obtain ⟨files, hfiles, hreached⟩ := ihinner
    cases hout : out (Path.join path name ++ "/") with
    | true =>
      refine ⟨each, ?_, fun file => ?_⟩
      · rw [belowEach]
        simp only [bind, Except.bind, hout, heach, if_true]
      · rw [hmem file, exists_directory_cons, hout]
        simp
    | false =>
      refine ⟨(name, files) :: each, ?_, fun file => ?_⟩
      · rw [belowEach]
        simp only [bind, Except.bind, hout, Bool.false_eq_true, if_false]
        rw [hfiles, heach]
        rfl
      · rw [List.exists_mem_cons_iff, hmem file, hreached file, exists_directory_cons]
        exact or_congr_left (iff_and_self.2 fun _ => hout)

end Discovery

/-! ## Discovery on a disk -/

namespace Discovery

variable {d : Disk} {patterns : List String}

theorem sources_eq_below (hdir : d.find path = .ok (.directory entries)) :
    sources d path (.list (patterns.map .string)) =
      below (fun p => .ok (Exclusion.excludes d.workingPath patterns path p)) path
        (.directory entries) := by
  have hpatterns : (if (Value.list (patterns.map .string)).isEmpty then Value.list []
      else .list (patterns.map .string)) = .list (patterns.map .string) := by
    cases patterns <;> rfl
  unfold sources
  rw [hpatterns, hdir]
  dsimp only
  congr 1
  funext p
  exact Exclusion.check_texts ..

/-- What is found below a directory: the source files with no directory on the way to them that is
left out. -/
theorem mem_sources_iff (patterns : List String) (hdir : d.find path = .ok (.directory entries)) :
    ∃ files, sources d path (.list (patterns.map .string)) = .ok files ∧
      ∀ file, file ∈ files ↔
        Reached (Exclusion.excludes d.workingPath patterns path) path (.directory entries) file := by
  rw [sources_eq_below hdir]
  exact mem_below_iff ..

variable {s : Scanner} {root : String}

theorem leavesOut_eq_excludes
    (hpatterns : s.config.get? "exclude_patterns" = some (.list (patterns.map .string)))
    (hroot : s.config.get? "root" = some (.string root)) (file : String) :
    s.leavesOut file = .ok (Exclusion.excludes s.workingDirectory patterns root file) := by
  unfold Scanner.leavesOut
  rw [hpatterns, hroot]
  exact Exclusion.check_texts ..

/-- Discovery below a directory finds only source files below it. Of those that the scanner does not
leave out it finds the ones with no directory on the way to them that the patterns leave out below the
path that is searched, directories being asked for as files are. So the files to scan are all those
that the scanner does not leave out exactly if it leaves out every file below such a directory. -/
theorem sources_covers_iff
    (hpatterns : s.config.get? "exclude_patterns" = some (.list (patterns.map .string)))
    (hroot : s.config.get? "root" = some (.string root))
    (hdir : d.find path = .ok (.directory entries))
    (hnamed : (Entry.directory entries).WellNamed) :
    ∃ files, sources d path (.list (patterns.map .string)) = .ok files ∧
      (∀ dirs file, SourceAt path (.directory entries) dirs file →
        (file ∈ files ↔ ∀ dir ∈ dirs,
          Exclusion.excludes d.workingPath patterns path (dir ++ "/") = false)) ∧
      ((∀ file, file ∈ files ∧ s.leavesOut file = .ok false ↔
          (∃ dirs, SourceAt path (.directory entries) dirs file) ∧ s.leavesOut file = .ok false) ↔
        ∀ dirs file, SourceAt path (.directory entries) dirs file →
          (∃ dir ∈ dirs, Exclusion.excludes d.workingPath patterns path (dir ++ "/") = true) →
            s.leavesOut file = .ok true) := by
  obtain ⟨files, hfiles, hreached⟩ := mem_sources_iff patterns hdir
  have hmem : ∀ dirs file, SourceAt path (.directory entries) dirs file →
      (file ∈ files ↔ ∀ dir ∈ dirs,
        Exclusion.excludes d.workingPath patterns path (dir ++ "/") = false) := by
    intro dirs file hsource
    rw [hreached file]
    refine ⟨fun ⟨dirs', hsource', hdirs⟩ => ?_, fun hdirs => ⟨dirs, hsource, hdirs⟩⟩
    rwa [hsource.dirs_eq hnamed hsource' hnamed]
  refine ⟨files, hfiles, hmem, ?_, ?_⟩
  · rintro hcovers dirs file hsource ⟨dir, hdir, hout⟩
    rw [leavesOut_eq_excludes hpatterns hroot]
    -- a file that is not left out would be found, past the directory
    cases hfile : Exclusion.excludes s.workingDirectory patterns root file with
    | true => rfl
    | false =>
      have hkept : s.leavesOut file = .ok false := by
        rw [leavesOut_eq_excludes hpatterns hroot, hfile]
      obtain ⟨hfound, -⟩ := (hcovers file).2 ⟨⟨dirs, hsource⟩, hkept⟩
      rw [(hmem dirs file hsource).1 hfound dir hdir] at hout
      cases hout
  · intro hpruned file
    refine and_congr_left fun hkept => ⟨fun hfound => ?_, fun ⟨dirs, hsource⟩ => ?_⟩
    · obtain ⟨dirs, hsource, -⟩ := (hreached file).1 hfound
      exact ⟨dirs, hsource⟩
    · refine (hmem dirs file hsource).2 fun dir hdir => ?_
      by_contra hout
      have hleft := hpruned dirs file hsource ⟨dir, hdir, by simpa using hout⟩
      rw [hkept] at hleft
      cases hleft

/-- Two ways to lose a file: a pattern for the files of a directory leaves out a directory in it, and a
pattern for a directory below the root leaves out one below the path. -/
theorem sources_covers_iff_of_lost :
    let sub : Entry := .directory [("a.js", .file [])]
    let lib : Entry := .directory [("sub", sub)]
    let d : Disk := ⟨[("pkg", .directory [("lib", lib)])], []⟩
    let s (patterns : List String) (root : String) : Scanner :=
      ⟨⟨[(.string "exclude_patterns", .list (patterns.map .string)), (.string "root", .string root)]⟩,
        ⟨[], [], []⟩, none, "/"⟩
    (∃ files, sources d "pkg" (.list (["lib/*"].map .string)) = .ok files ∧
      "pkg/lib/sub/a.js" ∉ files ∧ (s ["lib/*"] "pkg").leavesOut "pkg/lib/sub/a.js" = .ok false) ∧
    ∃ files, sources d "pkg" (.list (["lib/**"].map .string)) = .ok files ∧
      "pkg/lib/sub/a.js" ∉ files ∧ (s ["lib/**"] ".").leavesOut "pkg/lib/sub/a.js" = .ok false := by
  intro sub lib d s
  have hdir : d.find "pkg" = .ok (.directory [("lib", lib)]) := by with_unfolding_all rfl
  have hnamed : (Entry.directory [("lib", lib)]).WellNamed :=
    .directory (by decide +kernel) (List.forall_mem_singleton.2
      (.directory (by decide +kernel) (List.forall_mem_singleton.2
        (.directory (by decide +kernel) (List.forall_mem_singleton.2 .file)))))
  have hsource : SourceAt "pkg" (.directory [("lib", lib)]) ["pkg/lib", "pkg/lib/sub"]
      "pkg/lib/sub/a.js" := by
    have hfile : SourceAt "pkg/lib/sub" sub [] (Path.join "pkg/lib/sub" "a.js") :=
      .here (List.mem_singleton_self _) (by decide +kernel)
    rw [show Path.join "pkg/lib/sub" "a.js" = "pkg/lib/sub/a.js" by decide +kernel] at hfile
    rw [show "pkg/lib/sub" = Path.join "pkg/lib" "sub" by decide +kernel] at hfile ⊢
    have hsub : SourceAt "pkg/lib" lib [Path.join "pkg/lib" "sub"] _ :=
      .inside (List.mem_singleton_self _) hfile
    rw [show "pkg/lib" = Path.join "pkg" "lib" by decide +kernel] at hsub ⊢
    exact .inside (List.mem_singleton_self _) hsub
  constructor
  · have hpatterns : (s ["lib/*"] "pkg").config.get? "exclude_patterns" =
        some (.list (["lib/*"].map .string)) := rfl
    have hroot : (s ["lib/*"] "pkg").config.get? "root" = some (.string "pkg") := rfl
    obtain ⟨files, hfiles, hmem, -⟩ := sources_covers_iff hpatterns hroot hdir hnamed
    refine ⟨files, hfiles, fun h => ?_, by decide +kernel⟩
    have hkept := (hmem _ _ hsource).1 h "pkg/lib/sub" (by simp)
    exact absurd hkept (by decide +kernel)
  · have hpatterns : (s ["lib/**"] ".").config.get? "exclude_patterns" =
        some (.list (["lib/**"].map .string)) := rfl
    have hroot : (s ["lib/**"] ".").config.get? "root" = some (.string ".") := rfl
    obtain ⟨files, hfiles, hmem, -⟩ := sources_covers_iff hpatterns hroot hdir hnamed
    refine ⟨files, hfiles, fun h => ?_, by decide +kernel⟩
    have hkept := (hmem _ _ hsource).1 h "pkg/lib" (by simp)
    exact absurd hkept (by decide +kernel)

end Discovery

end CodeReview
