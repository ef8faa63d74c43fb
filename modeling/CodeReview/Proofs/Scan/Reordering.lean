/-
Discovery finds each source file once, and in the same order whatever order directories list their entries in.
What is found in a directory is told by what is found in each entry alone (`found_directory`), and is sorted
by names of which none comes twice (`found_reordered`, `nodup_found`).
-/
import CodeReview.Proofs.Disk.Reordering
import CodeReview.Proofs.Scan.Discovery
import CodeReview.Proofs.StableSort
import Mathlib.Data.String.Basic

namespace CodeReview

/-- What is picked out of a list goes by keys that the list has, in their order. -/
theorem map_filterMap_sublist {α β γ : Type} {pick : α → Option β} {key : β → γ} {key' : α → γ}
    (hpick : ∀ a b, pick a = some b → key b = key' a) (items : List α) :
    ((items.filterMap pick).map key).Sublist (items.map key') := by
  induction items with
  | nil => exact .slnil
  | cons a items ih =>
    rw [List.map_cons]
    cases hb : pick a with
    | none =>
      rw [List.filterMap_cons_none hb]
      exact ih.cons _
    | some b =>
      rw [List.filterMap_cons_some hb, List.map_cons, hpick a b hb]
      exact ih.cons_cons _

namespace Entry

variable {names : List String} {entry inner : Entry}

theorem WellNamed.at? (h : entry.WellNamed) (hat : entry.at? names = some inner) : inner.WellNamed := by
  induction names generalizing entry with
  | nil => exact Option.some.inj hat ▸ h
  | cons name names ih =>
    cases entry with
    | file content => cases hat
    | directory all =>
      rw [at?_directory_cons] at hat
      obtain ⟨next, hnext, hat⟩ := Option.bind_eq_some_iff.1 hat
      obtain ⟨before, after, hall, -⟩ := List.lookup_eq_some_iff.1 hnext
      have hmem : (name, next) ∈ all := by
        rw [hall]
        exact List.mem_append_right _ (List.mem_cons_self ..)
      exact ih (h.entry hmem) hat

end Entry

namespace Path

theorem join_injective (directory : String) : Function.Injective (join directory) := by
  intro a b h
  have hchars := toList_join directory a
  rw [h, toList_join] at hchars
  exact String.toList_injective (List.append_cancel_left hchars).symm

end Path

namespace Discovery

open Result

variable {out : String → Bool} {path name file : String} {entries entries' : List (String × Entry)}
  {entry entry' : Entry} {files : List String}

/-! ## Entry by entry -/

/-- The source files found in an entry at a path. -/
def found (out : String → Bool) (path : String) (entry : Entry) : List String :=
  given (below (fun p => .ok (out p)) path entry)

theorem below_eq_found (out : String → Bool) (path : String) (entry : Entry) :
    below (fun p => .ok (out p)) path entry = .ok (found out path entry) := by
  obtain ⟨files, hfiles, -⟩ := mem_below_iff out path entry
  exact eq_ok_given ⟨files, hfiles⟩

theorem mem_found_iff : file ∈ found out path entry ↔ Reached out path entry file := by
  obtain ⟨files, hfiles, hmem⟩ := mem_below_iff out path entry
  rw [below_eq_found] at hfiles
  rw [Except.ok.inj hfiles, hmem]

/-- What is found in one entry of a directory, with its name, if the entry is entered. -/
def entered (out : String → Bool) (path : String) : String × Entry → Option (String × List String)
  | (_, .file _) => none
  | (name, .directory inner) =>
    if out (Path.join path name ++ "/") then none
    else some (name, found out (Path.join path name) (.directory inner))

theorem entered_directory (hkept : out (Path.join path name ++ "/") = false) :
    entered out path (name, .directory entries) =
      some (name, found out (Path.join path name) (.directory entries)) := by
  dsimp only [entered]
  rw [hkept, if_neg Bool.false_ne_true]

theorem entered_eq_some {p : String × Entry} {q : String × List String}
    (h : entered out path p = some q) :
    ∃ inner, p = (q.1, .directory inner) ∧ q.2 = found out (Path.join path q.1) (.directory inner) := by
  obtain ⟨name, entry⟩ := p
  cases entry with
  | file content => cases h
  | directory inner =>
    dsimp only [entered] at h
    split_ifs at h
    obtain rfl := Option.some.inj h
    exact ⟨inner, rfl, rfl⟩

theorem belowEach_eq_entered (out : String → Bool) (path : String) (entries : List (String × Entry)) :
    belowEach (fun p => .ok (out p)) path entries = .ok (entries.filterMap (entered out path)) := by
  induction entries with
  | nil => rw [belowEach]; rfl
  | cons first entries ih =>
    obtain ⟨name, entry⟩ := first
    cases entry with
    | file content => rw [belowEach, ih]; rfl
    | directory inner =>
      rw [belowEach, ok_bind]
      cases hout : out (Path.join path name ++ "/") with
      | true =>
        rw [if_pos rfl, ih, List.filterMap_cons_none (by simp [entered, hout])]
      | false =>
        rw [if_neg Bool.false_ne_true, below_eq_found, ok_bind, ih, ok_bind,
          List.filterMap_cons_some (entered_directory hout)]
        rfl

/-- What is found in a directory: its own source files, and then what is found in its entries. -/
theorem found_directory (out : String → Bool) (path : String) (entries : List (String × Entry)) :
    found out path (.directory entries) = (sourceNames entries).map (Path.join path) ++
      ((entries.filterMap (entered out path)).mergeSort fun a b => a.1 ≤ b.1).flatMap (·.2) := by
  have hbelow := below_eq_found out path (.directory entries)
  rw [below, belowEach_eq_entered, ok_bind] at hbelow
  exact (Except.ok.inj hbelow).symm

/-! ## Names -/

theorem nodup_entered (hnames : (entries.map Prod.fst).Nodup) (out : String → Bool) (path : String) :
    ((entries.filterMap (entered out path)).map Prod.fst).Nodup := by
  refine hnames.sublist (map_filterMap_sublist (fun p q hq => ?_) entries)
  obtain ⟨inner, rfl, -⟩ := entered_eq_some hq
  rfl

/-- The name of a source file. -/
def sourceName? : String × Entry → Option String
  | (name, .file _) => if isSource name then some name else none
  | (_, .directory _) => none

theorem sourceNames_eq (entries : List (String × Entry)) :
    sourceNames entries = (entries.filterMap sourceName?).mergeSort fun a b => a ≤ b := by
  unfold sourceNames
  congr 2
  funext ⟨name, entry⟩
  cases entry <;> rfl

theorem nodup_sourceName? (hnames : (entries.map Prod.fst).Nodup) :
    ((entries.filterMap sourceName?).map id).Nodup := by
  refine hnames.sublist (map_filterMap_sublist (fun p name h => ?_) entries)
  obtain ⟨n, entry⟩ := p
  cases entry with
  | directory inner => cases h
  | file content =>
    dsimp only [sourceName?] at h
    split_ifs at h
    exact (Option.some.inj h).symm

theorem nodup_sourceNames (hnames : (entries.map Prod.fst).Nodup) : (sourceNames entries).Nodup := by
  rw [sourceNames_eq, (List.mergeSort_perm _ _).nodup_iff, ← List.map_id (entries.filterMap _)]
  exact nodup_sourceName? hnames

theorem sourceNames_perm (hnames : (entries.map Prod.fst).Nodup) (h : entries.Perm entries') :
    sourceNames entries = sourceNames entries' := by
  rw [sourceNames_eq, sourceNames_eq]
  exact StableSort.mergeSort_eq_of_perm id (h.filterMap _) (nodup_sourceName? hnames)

/-! ## Another order -/

/-- What is found does not depend on the order in which directories list their entries. -/
theorem found_reordered (h : entry.Reordered entry') (hproper : entry.IsProper) (path : String) :
    found out path entry = found out path entry' := by
  induction h generalizing path with
  | refl entry => rfl
  | trans h h' ih ih' => rw [ih hproper, ih' (h.at?_spec hproper).1]
  | order h =>
    have hnames := (Entry.isProper_directory_iff.1 hproper).1
    rw [found_directory, found_directory, sourceNames_perm hnames h,
      StableSort.mergeSort_eq_of_perm Prod.fst (h.filterMap _) (nodup_entered hnames out path)]
  | @inside before after name entry entry' h ih =>
    have hinner := (Entry.isProper_directory_iff_forall_mem.1 hproper).2 (name, entry) (by simp)
    have hfound (path : String) := ih hinner path
    -- the entry is a file, which is the same, or a directory, in which by induction the same is found
    have hname : sourceName? (name, entry) = sourceName? (name, entry') := by
      cases entry with
      | file content => rw [h.eq_file]
      | directory all =>
        obtain ⟨all', rfl⟩ := h.eq_directory
        rfl
    have hentered : entered out path (name, entry) = entered out path (name, entry') := by
      cases entry with
      | file content => rw [h.eq_file]
      | directory all =>
        obtain ⟨all', rfl⟩ := h.eq_directory
        dsimp only [entered]
        rw [hfound]
    rw [found_directory, found_directory, sourceNames_eq, sourceNames_eq]
    simp only [List.filterMap_append, List.filterMap_cons, hname, hentered]

/-! ## Each file once -/

/-- What is found in two entries of a directory has nothing in common. -/
theorem disjoint_entered (hnamed : (Entry.directory entries).WellNamed)
    {q q' : String × List String} (hq : q ∈ entries.filterMap (entered out path))
    (hq' : q' ∈ entries.filterMap (entered out path)) (hne : q.1 ≠ q'.1) : q.2.Disjoint q'.2 := by
  obtain ⟨p, hp, hentered⟩ := List.mem_filterMap.1 hq
  obtain ⟨p', hp', hentered'⟩ := List.mem_filterMap.1 hq'
  obtain ⟨inner, rfl, hfound⟩ := entered_eq_some hentered
  obtain ⟨inner', rfl, hfound'⟩ := entered_eq_some hentered'
  rw [hfound, hfound']
  intro file hfile hfile'
  obtain ⟨dirs, hsource, -⟩ := mem_found_iff.1 hfile
  obtain ⟨dirs', hsource', -⟩ := mem_found_iff.1 hfile'
  obtain ⟨rest, hrest⟩ := hsource.starts_inside (hnamed.name hp) (hnamed.entry hp)
  obtain ⟨rest', hrest'⟩ := hsource'.starts_inside (hnamed.name hp') (hnamed.entry hp')
  have hname : q.1.toList = q'.1.toList := eq_of_append_cons_eq (hnamed.name hp).2 (hnamed.name hp').2
    (List.append_cancel_left (hrest.symm.trans hrest'))
  exact hne (String.toList_injective hname)

/-- A file in a directory is found in none of the directories in it. -/
theorem join_notMem_entered (hnamed : (Entry.directory entries).WellNamed) {name : String}
    (hname : name ∈ sourceNames entries) {q : String × List String}
    (hq : q ∈ entries.filterMap (entered out path)) : Path.join path name ∉ q.2 := by
  obtain ⟨-, content, hfile⟩ := mem_sourceNames_iff.1 hname
  obtain ⟨p, hp, hentered⟩ := List.mem_filterMap.1 hq
  obtain ⟨inner, rfl, hfound⟩ := entered_eq_some hentered
  rw [hfound]
  intro hmem
  obtain ⟨dirs, hsource, -⟩ := mem_found_iff.1 hmem
  exact hsource.join_ne (hnamed.name hfile).2 (hnamed.name hp) (hnamed.entry hp) rfl

/-- No source file is found twice. -/
theorem nodup_found (hnamed : entry.WellNamed) (hproper : entry.IsProper) (out : String → Bool)
    (path : String) : (found out path entry).Nodup := by
  induction hnamed generalizing path with
  | file => exact List.nodup_nil
  | @directory entries names inside ih =>
    have hnamed := Entry.WellNamed.directory names inside
    obtain ⟨hnames, hinside⟩ := Entry.isProper_directory_iff_forall_mem.1 hproper
    have hsorted := List.mergeSort_perm (entries.filterMap (entered out path)) fun a b => a.1 ≤ b.1
    have heach : (((entries.filterMap (entered out path)).mergeSort fun a b => a.1 ≤ b.1).flatMap
        (·.2)).Nodup := by
      rw [(hsorted.flatMap_right _).nodup_iff, List.nodup_flatMap]
      constructor
      · intro q hq
        obtain ⟨p, hp, hentered⟩ := List.mem_filterMap.1 hq
        obtain ⟨inner, rfl, hfound⟩ := entered_eq_some hentered
        rw [hfound]
        exact ih _ hp (hinside _ hp) _
      · have hkeys := List.pairwise_map.1 (nodup_entered hnames out path)
        exact hkeys.imp_of_mem fun hq hq' hne => disjoint_entered hnamed hq hq' hne
    -- the files of the directory, and those of each directory in it, have nothing in common
    rw [found_directory, List.nodup_append]
    refine ⟨(nodup_sourceNames hnames).map (Path.join_injective path), heach, ?_⟩
    rintro file hfile _ hfile' rfl
    obtain ⟨name, hname, rfl⟩ := List.mem_map.1 hfile
    obtain ⟨q, hq, hmem⟩ := List.mem_flatMap.1 hfile'
    exact join_notMem_entered hnamed hname (hsorted.mem_iff.1 hq) hmem

/-! ## On a disk -/

variable {d : Disk} {root : String}

theorem sources_of_find (hfind : d.find root = .ok entry) (patterns : List String) :
    sources d root (.list (patterns.map .string)) =
      .ok (found (Exclusion.excludes d.workingPath patterns root) root entry) := by
  cases entry with
  | file content =>
    unfold sources
    rw [hfind]
    dsimp only
    rw [below, ← below_eq_found, below]
  | directory entries => rw [sources_eq_below hfind, below_eq_found]

theorem sources_of_missing {f : FileFault} (hfind : d.find root = .error (.file f))
    (patterns : List String) : sources d root (.list (patterns.map .string)) = .ok [] := by
  unfold sources
  rw [hfind]

/-- Below a root discovery finds the source files with no directory on the way that the patterns leave out,
and each of them once. The list is the same whatever order directories list their entries in. -/
theorem sources_exact (hproper : d.IsProper) (hnamed : (Entry.directory d.root).WellNamed)
    (root : String) (patterns : List String) :
    ('\x00' ∉ root.toList → ∃ files, sources d root (.list (patterns.map .string)) = .ok files ∧
      files.Nodup ∧ ∀ file, file ∈ files ↔ ∃ entry dirs, d.find root = .ok entry ∧
        SourceAt root entry dirs file ∧ ∀ dir ∈ dirs,
          Exclusion.check d.workingPath (.list (patterns.map .string)) (.string root) (dir ++ "/") =
            .ok false) ∧
    ∀ d', d.Reordered d' → sources d' root (.list (patterns.map .string)) =
      sources d root (.list (patterns.map .string)) := by
  constructor
  · intro hnull
    cases hfind : d.find root with
    | ok entry =>
      obtain ⟨names, -, hat⟩ := Disk.find_eq_ok_iff.1 hfind
      refine ⟨_, sources_of_find hfind patterns,
        nodup_found (hnamed.at? hat) (Entry.IsProper.at? hproper hat) .., fun file => ?_⟩
      rw [mem_found_iff]
      simp only [Exclusion.check_texts, Except.ok.injEq, exists_and_left, exists_eq_left', Reached]
    | error fault =>
      obtain ⟨fault, rfl⟩ := Disk.find_fault hnull hfind
      exact ⟨[], sources_of_missing hfind patterns, List.nodup_nil, by simp⟩
  · intro d' h
    rcases Disk.find_reordered h hproper root with ⟨entry, entry', hfind, hfind', hentry⟩ |
      ⟨fault, hfind, hfind'⟩
    · obtain ⟨names, -, hat⟩ := Disk.find_eq_ok_iff.1 hfind
      have hpath : d'.workingPath = d.workingPath := by
        unfold Disk.workingPath
        rw [h.workingDirectory]
      rw [sources_of_find hfind, sources_of_find hfind', hpath,
        found_reordered hentry (Entry.IsProper.at? hproper hat)]
    · unfold sources
      rw [hfind, hfind']
      cases fault <;> rfl

/-- A directory that lists its entries in two orders, with a directory in it that is left out. -/
theorem sources_exact_of_shuffled :
    let dist : Entry := .directory [("x.js", .file [])]
    let lib : List (String × Entry) := [("b.js", .file []), ("dist", dist), ("a.ts", .file [])]
    let lib' : List (String × Entry) := [("a.ts", .file []), ("b.js", .file []), ("dist", dist)]
    let d : Disk := ⟨[("lib", .directory lib)], []⟩
    let d' : Disk := ⟨[("lib", .directory lib')], []⟩
    let patterns : Value := .list (["dist"].map .string)
    d.IsProper ∧ (Entry.directory d.root).WellNamed ∧ d.Reordered d' ∧
      sources d' "lib" patterns = sources d "lib" patterns ∧
      ∃ files, sources d "lib" patterns = .ok files ∧ files.Nodup ∧ "lib/a.ts" ∈ files ∧
        "lib/dist/x.js" ∉ files := by
  intro dist lib lib' d d' patterns
  have hproper : d.IsProper := by
    have hfile := Entry.isProper_file []
    refine Entry.isProper_directory_iff_forall_mem.2 ⟨by decide +kernel, List.forall_mem_singleton.2 ?_⟩
    refine Entry.isProper_directory_iff_forall_mem.2 ⟨by decide +kernel, ?_⟩
    simpa [lib] using ⟨hfile, Entry.isProper_directory_file "x.js" [], hfile⟩
  have hdist : dist.WellNamed := .directory (by decide +kernel) (List.forall_mem_singleton.2 .file)
  have hlib : (Entry.directory lib).WellNamed :=
    .directory (by decide +kernel) (by simpa [lib] using ⟨.file, hdist, .file⟩)
  have hnamed : (Entry.directory d.root).WellNamed :=
    .directory (by decide +kernel) (List.forall_mem_singleton.2 hlib)
  have hshuffled : d.Reordered d' :=
    ⟨@Entry.Reordered.inside [] [] "lib" _ _ (.order (@List.perm_append_comm _ [_, _] [_])), rfl⟩
  have hfind : d.find "lib" = .ok (.directory lib) := by with_unfolding_all rfl
  have hkept : SourceAt "lib" (.directory lib) [] (Path.join "lib" "a.ts") :=
    @SourceAt.here "lib" "a.ts" lib [] (by simp [lib]) (by decide +kernel)
  have hout : SourceAt "lib" (.directory lib) [Path.join "lib" "dist"]
      (Path.join (Path.join "lib" "dist") "x.js") :=
    @SourceAt.inside "lib" "dist" _ lib [("x.js", .file [])] [] (by simp [lib, dist])
      (.here (List.mem_singleton_self _) (by decide +kernel))
  rw [show Path.join "lib" "a.ts" = "lib/a.ts" by decide +kernel] at hkept
  rw [show Path.join (Path.join "lib" "dist") "x.js" = "lib/dist/x.js" by decide +kernel] at hout
  obtain ⟨hfound, hsame⟩ := sources_exact hproper hnamed "lib" ["dist"]
  obtain ⟨files, hfiles, hnodup, hmem⟩ := hfound (by decide +kernel)
  refine ⟨hproper, hnamed, hshuffled, hsame d' hshuffled, files, hfiles, hnodup,
    (hmem _).2 ⟨_, [], hfind, hkept, by simp⟩, fun h => ?_⟩
  -- the only way to the file is through the directory that is left out
  obtain ⟨entry, dirs, hentry, hsource, hdirs⟩ := (hmem _).1 h
  obtain rfl := Except.ok.inj (hfind.symm.trans hentry)
  obtain rfl := hsource.dirs_eq hlib hout hlib
  exact absurd (hdirs _ (List.mem_singleton_self _)) (by decide +kernel)

end Discovery

end CodeReview
