/-
What writing does to a disk: an entry that is put into a directory lies there, and nothing else in the
directory changes; paths lead where they led; and directories that are made are there afterwards
(`makeDirectories_spec`).
-/
import CodeReview.Proofs.Act
import CodeReview.Proofs.Disk.Walk
import CodeReview.Proofs.Result

namespace CodeReview.Disk

variable {d d' : Disk} {path : String} {names places dir : List String} {name other : String}
  {entry : Option Entry}

/-! ## Putting an entry into a directory -/

/-- No directory lists a name twice. -/
def IsProper (d : Disk) : Prop := (Entry.directory d.root).IsProper

theorem IsProper.put (h : d.IsProper) (hentry : ∀ e, entry = some e → e.IsProper) :
    (d.put entry names).IsProper :=
  Entry.IsProper.update h fun _ => hentry

theorem IsProper.put_some {e : Entry} (h : d.IsProper) (he : e.IsProper) :
    (d.put (some e) names).IsProper :=
  h.put fun _ heq => Option.some.inj heq ▸ he

theorem HasDirectory.put (h : d.HasDirectory places) (hplace : ¬ d.HasDirectory names) :
    (d.put entry names).HasDirectory places :=
  Entry.HasDirectory.update h hplace

theorem at?_put_directory {entries : List (String × Entry)} (h : d.at? dir = some (.directory entries))
    (name : String) : (d.put entry (dir ++ [name])).at? dir =
      some (.directory (Entry.updateNamed (fun _ => entry) name entries)) :=
  Entry.at?_update_append h name

/-- Something that is put into a directory lies there. -/
theorem at?_put_some (hdir : d.HasDirectory dir) (e : Entry) :
    (d.put (some e) (dir ++ [name])).at? (dir ++ [name]) = some e := by
  obtain ⟨entries, hentries⟩ := hdir
  rw [at?_append_singleton (at?_put_directory hentries name)]
  exact Entry.lookup_updateNamed_some rfl

theorem at?_put_self (hproper : d.IsProper) (hdir : d.HasDirectory dir) :
    (d.put entry (dir ++ [name])).at? (dir ++ [name]) = entry := by
  cases entry with
  | some e => exact at?_put_some hdir e
  | none =>
    obtain ⟨entries, hentries⟩ := hdir
    rw [at?_append_singleton (at?_put_directory hentries name)]
    exact Entry.lookup_updateNamed_none (hproper dir entries hentries) rfl

theorem at?_put_of_ne (hdir : d.HasDirectory dir) (hne : other ≠ name) :
    (d.put entry (dir ++ [name])).at? (dir ++ [other]) = d.at? (dir ++ [other]) := by
  obtain ⟨entries, hentries⟩ := hdir
  rw [at?_append_singleton (at?_put_directory hentries name), at?_append_singleton hentries,
    Entry.lookup_updateNamed_of_ne hne]

/-- Where no directory is lost, paths lead where they led. -/
theorem place_put (h : d.place true path = .ok places) (hplace : ¬ d.HasDirectory names) :
    (d.put entry names).place true path = .ok places := by
  rw [place_eq_ok_iff] at h ⊢
  exact ⟨h.1, h.2.1, walk_mono (fun _ hkept => hkept.put hplace) h.2.2⟩

theorem not_hasDirectory_of_at?_eq_none (h : d.at? names = none) : ¬ d.HasDirectory names := by
  rintro ⟨entries, hentries⟩
  cases h.symm.trans hentries

theorem not_hasDirectory_of_file {content : Text.Bytes} (h : d.at? names = some (.file content)) :
    ¬ d.HasDirectory names := by
  rintro ⟨entries, hentries⟩
  cases h.symm.trans hentries

/-! ## Directories on the way -/

theorem HasDirectory.dropLast (h : d.HasDirectory names) : d.HasDirectory names.dropLast := by
  rcases List.eq_nil_or_concat names with rfl | ⟨init, last, rfl⟩
  · exact h
  rw [List.concat_eq_append, List.dropLast_concat]
  obtain ⟨entries, hentries⟩ := h
  rw [List.concat_eq_append, Entry.at?_append] at hentries
  obtain ⟨inner, hinner, hlast⟩ := Option.bind_eq_some_iff.1 hentries
  have heq := Entry.HasDirectory.eq_directory ⟨entries, hlast⟩
  exact ⟨inner.entries, heq ▸ hinner⟩

/-- A way leads to something that is there, or to a name in a directory. -/
theorem walk_cases {here pieces : List String} (hhere : d.HasDirectory here)
    (h : d.walk path true here pieces = .ok names) :
    (d.at? names).isSome ∨ ∃ dir name, names = dir ++ [name] ∧ d.HasDirectory dir := by
  refine walk_rec (motive := fun here _ => d.HasDirectory here → (d.at? names).isSome ∨
      ∃ dir name, names = dir ++ [name] ∧ d.HasDirectory dir)
    (fun ⟨entries, hentries⟩ => .inl (Option.isSome_iff_exists.2 ⟨_, hentries⟩))
    (fun _ _ ih => ih) (fun hhere ih _ => ih hhere.dropLast)
    (fun {here piece pieces entries} hentries _ _ _ _ hrest ih _ => ?_) h hhere
  cases pieces with
  | nil =>
    injection hrest with hplace
    exact .inr ⟨here, piece, hplace.symm, entries, hentries⟩
  | cons next pieces => exact ih (hasDirectory_of_walk hrest)

/-! ## What is found -/

theorem find_eq_ok_iff {e : Entry} : d.find path = .ok e ↔
    ∃ names, d.place false path = .ok names ∧ d.at? names = some e := by
  unfold find
  rw [Result.bind_eq_ok_iff]
  refine exists_congr fun names => and_congr_right fun _ => ?_
  split
  · next entry hat =>
    rw [hat]
    exact ⟨fun h => congrArg some (Except.ok.inj h), fun h => congrArg Except.ok (Option.some.inj h)⟩
  · next hat =>
    rw [hat]
    exact ⟨nofun, nofun⟩

/-- A path without a null character is found, or is missing or unfit on the disk. -/
theorem find_fault {fault : Fault} (hnull : '\x00' ∉ path.toList) (h : d.find path = .error fault) :
    ∃ f, fault = .file f := by
  have hplace {fault : Fault} (h : d.place false path = .error fault) : ∃ f, fault = .file f := by
    unfold place at h
    rw [if_neg (by simpa using hnull)] at h
    split at h
    · exact ⟨_, (Except.error.inj h).symm⟩
    split at h
    · exact ⟨_, (Except.error.inj h).symm⟩
    dsimp only at h
    generalize d.walk path false _ _ = result at h
    cases result with
    | ok names => cases h
    | error f => exact ⟨f, (Except.error.inj h).symm⟩
  unfold find at h
  cases hat : d.place false path with
  | error place =>
    rw [hat] at h
    exact Except.error.inj h ▸ hplace hat
  | ok names =>
    rw [hat, Result.ok_bind] at h
    split at h
    · cases h
    · exact ⟨_, (Except.error.inj h).symm⟩

theorem isDirectory_iff : d.isDirectory path = true ↔
    ∃ dir, d.place false path = .ok dir ∧ d.HasDirectory dir := by
  have hfind : d.isDirectory path = true ↔ ∃ entries, d.find path = .ok (.directory entries) := by
    unfold isDirectory
    split
    · next entries h => exact iff_of_true rfl ⟨entries, h⟩
    · next h => exact iff_of_false Bool.false_ne_true fun ⟨entries, hentries⟩ => h entries hentries
  rw [hfind]
  constructor
  · rintro ⟨entries, h⟩
    obtain ⟨dir, hplace, hat⟩ := find_eq_ok_iff.1 h
    exact ⟨dir, hplace, entries, hat⟩
  · rintro ⟨dir, hplace, entries, hat⟩
    exact ⟨entries, find_eq_ok_iff.2 ⟨dir, hplace, hat⟩⟩

/-- A path that leads throughout also leads to an entry that may be new. -/
theorem place_true_of_false (h : d.place false path = .ok names) : d.place true path = .ok names := by
  obtain ⟨htakes, hempty, hwalk⟩ := place_eq_ok_iff.1 h
  have hmore : d.walk path true _ (Path.pieces path ++ []) = d.walk path true names [] :=
    walk_append hwalk
  rw [List.append_nil] at hmore
  exact place_eq_ok_iff.2 ⟨htakes, hempty, hmore⟩

/-! ## Making directories -/

theorem withDirectory_eq_ok_iff : d.withDirectory path = .ok d' ↔
    ∃ names, d.place true path = .ok names ∧ d.at? names = none ∧
      d.put (some (.directory [])) names = d' := by
  unfold withDirectory
  rw [Result.bind_eq_ok_iff]
  refine exists_congr fun names => and_congr_right fun _ => ?_
  split
  · next entry hat =>
    rw [hat]
    exact ⟨nofun, fun h => nomatch h.1⟩
  · next hat =>
    exact ⟨fun h => ⟨hat, Except.ok.inj h⟩, fun h => congrArg Except.ok h.2⟩

theorem isProper_directory_nil : (Entry.directory []).IsProper :=
  Entry.isProper_directory_iff.2 ⟨List.nodup_nil, fun _ _ h => nomatch h⟩

/-- A directory that is made lies at its path. -/
theorem isDirectory_of_withDirectory {p : Path} (hp : p.IsProper) (hproper : d.IsProper)
    (h : d.withDirectory p.text = .ok d') : d'.IsProper ∧ d'.isDirectory p.text = true := by
  obtain ⟨names, hplace, hnone, rfl⟩ := withDirectory_eq_ok_iff.1 h
  refine ⟨hproper.put_some isProper_directory_nil, ?_⟩
  have hnew : (d.put (some (.directory [])) names).at? names = some (.directory []) := by
    obtain ⟨-, hstart, hwalk⟩ := (place_text_eq_ok_iff hp).1 hplace
    rcases walk_cases hstart hwalk with hsome | ⟨dir, name, rfl, hdir⟩
    · rw [hnone] at hsome
      cases hsome
    · exact at?_put_self hproper hdir
  have hkept : (d.put (some (.directory [])) names).place true p.text = .ok names :=
    place_put hplace (not_hasDirectory_of_at?_eq_none hnone)
  exact isDirectory_iff.2 ⟨names, place_false_of_at? hkept hnew, [], hnew⟩

theorem ensureDirectory_of_ok {p : Path} (h : d.withDirectory p.text = .ok d') :
    (ensureDirectory p d).result = .ok () ∧ (ensureDirectory p d).state = d' := by
  have htry : Act.tryModify (fun d => d.withDirectory p.text) d = ⟨.ok (), d', [], []⟩ :=
    Act.tryModify_of_ok h
  unfold ensureDirectory
  rw [Act.result_bind, Act.state_bind, Act.result_attempt, Act.state_attempt, htry]
  exact ⟨rfl, rfl⟩

/-- Where a directory cannot be made the disk is left alone, and it may be there already. -/
theorem ensureDirectory_of_error {p : Path} {fault : Fault} (h : d.withDirectory p.text = .error fault) :
    (ensureDirectory p d).result =
      (if fault.isStorageFault && d.isDirectory p.text then .ok () else .error fault) ∧
    (ensureDirectory p d).state = d := by
  have htry : Act.tryModify (fun d => d.withDirectory p.text) d = ⟨.error fault, d, [], []⟩ :=
    Act.tryModify_of_error h
  unfold ensureDirectory
  rw [Act.result_bind, Act.state_bind, Act.result_attempt, Act.state_attempt, htry]
  dsimp only
  rw [Act.result_bind, Act.state_bind]
  show ((if _ then _ else _ : Act Disk Unit) d).result = _ ∧ ((if _ then _ else _ : Act Disk Unit) d).state = _
  cases fault.isStorageFault && d.isDirectory p.text with
  | true => exact ⟨rfl, rfl⟩
  | false => exact ⟨rfl, rfl⟩

/-- A directory is made or was there already. -/
theorem ensureDirectory_spec {p : Path} (hp : p.IsProper) (hproper : d.IsProper) :
    (ensureDirectory p d).state.IsProper ∧
      ((ensureDirectory p d).result = .ok () → (ensureDirectory p d).state.isDirectory p.text = true) := by
  cases hwith : d.withDirectory p.text with
  | ok d' =>
    rw [(ensureDirectory_of_ok hwith).2]
    obtain ⟨hnext, hdirectory⟩ := isDirectory_of_withDirectory hp hproper hwith
    exact ⟨hnext, fun _ => hdirectory⟩
  | error fault =>
    obtain ⟨hresult, hstate⟩ := ensureDirectory_of_error hwith
    rw [hresult, hstate]
    refine ⟨hproper, fun h => ?_⟩
    split_ifs at h with hthere
    exact (Bool.and_eq_true_iff.1 hthere).2

theorem ensureDirectories_spec {p : Path} (hp : p.IsProper) (depth : ℕ) (hproper : d.IsProper) :
    (ensureDirectories depth p d).state.IsProper ∧ ((ensureDirectories depth p d).result = .ok () →
      (ensureDirectories depth p d).state.isDirectory p.text = true) := by
  induction depth generalizing p d with
  | zero => exact ensureDirectory_spec hp hproper
  | succ depth ih =>
    obtain ⟨hfirst, hmade⟩ := ensureDirectory_spec hp hproper
    unfold ensureDirectories
    rw [Act.result_bind, Act.state_bind, Act.result_attempt, Act.state_attempt]
    dsimp only
    cases hresult : (ensureDirectory p d).result with
    | ok _ => exact ⟨hfirst, fun _ => hmade hresult⟩
    | error fault =>
      cases fault with
      | file what =>
        cases what with
        | missing q =>
          dsimp only
          split_ifs
          · exact ⟨hfirst, nofun⟩
          -- the directories on the way are made first
          obtain ⟨hparents, -⟩ := ih hp.parent hfirst
          rw [Act.result_bind, Act.state_bind]
          split
          · exact ensureDirectory_spec hp hparents
          · exact ⟨hparents, nofun⟩
        | _ => exact ⟨hfirst, nofun⟩
      | _ => exact ⟨hfirst, nofun⟩

/-- Directories that are made are there. -/
theorem makeDirectories_spec {p : Path} (hp : p.IsProper) (hproper : d.IsProper) :
    (makeDirectories p d).state.IsProper ∧ ((makeDirectories p d).result = .ok () →
      (makeDirectories p d).state.isDirectory p.text = true) :=
  ensureDirectories_spec hp _ hproper

/-- Where the directory is there already nothing is made. -/
theorem makeDirectories_of_isDirectory {p : Path} (h : d.isDirectory p.text = true) :
    (makeDirectories p).Yields d () (· = d) := by
  obtain ⟨dir, hplace, entries, hentries⟩ := isDirectory_iff.1 h
  have hexists : d.withDirectory p.text = .error (.file (.exists p.text)) := by
    have hat : d.at? dir = some (.directory entries) := hentries
    unfold withDirectory
    rw [place_true_of_false hplace, Result.ok_bind, hat]
    rfl
  obtain ⟨hresult, hstate⟩ := ensureDirectory_of_error hexists
  rw [h] at hresult
  unfold makeDirectories
  cases p.parts.length with
  | zero => exact ⟨hresult, hstate⟩
  | succ depth =>
    unfold ensureDirectories
    constructor
    · rw [Act.result_bind, Act.result_attempt, hresult]
      rfl
    · rw [Act.state_bind, Act.result_attempt, Act.state_attempt, hresult]
      exact hstate

/-! ## Writing and moving files -/

section Files

variable {content : Text.Bytes} {source target : String}

theorem hasDirectory_of_at? {entries : List (String × Entry)}
    (h : d.at? names = some (.directory entries)) : d.HasDirectory names := ⟨entries, h⟩

/-- What is put over a place is refused where a directory lies. -/
theorem over_eq_ok_iff {fault : Fault} {given : Disk} :
    (match d.at? names with
      | some (.directory _) => throw fault
      | _ => return given : Except Fault Disk) = .ok d' ↔ ¬ d.HasDirectory names ∧ given = d' := by
  split
  · next entries hat =>
    exact ⟨nofun, fun h => absurd (hasDirectory_of_at? hat) h.1⟩
  · next hat =>
    exact ⟨fun h => ⟨fun ⟨entries, hentries⟩ => hat entries hentries, Except.ok.inj h⟩,
      fun h => congrArg Except.ok h.2⟩

/-- A file can be written wherever no directory lies. -/
theorem withFile_eq_ok_iff : d.withFile path content = .ok d' ↔
    ∃ names, d.place true path = .ok names ∧ ¬ d.HasDirectory names ∧
      d.put (some (.file content)) names = d' := by
  unfold withFile
  rw [Result.bind_eq_ok_iff]
  exact exists_congr fun names => and_congr_right fun _ => over_eq_ok_iff

theorem withMoved_eq_ok_iff : d.withMoved source target = .ok d' ↔
    ∃ content, d.read source = .ok content ∧ ∃ sourceNames, d.place false source = .ok sourceNames ∧
      ∃ names, d.place true target = .ok names ∧ ¬ d.HasDirectory names ∧
        (d.put none sourceNames).put (some (.file content)) names = d' := by
  unfold withMoved
  rw [Result.bind_eq_ok_iff]
  refine exists_congr fun content => and_congr_right fun _ => ?_
  rw [Result.bind_eq_ok_iff]
  refine exists_congr fun sourceNames => and_congr_right fun _ => ?_
  rw [Result.bind_eq_ok_iff]
  exact exists_congr fun names => and_congr_right fun _ => over_eq_ok_iff

theorem read_of_at? (hplace : d.place true path = .ok names) (hat : d.at? names = some (.file content)) :
    d.read path = .ok content := by
  unfold read
  rw [find_of_place hplace, hat]
  rfl

theorem withoutFile_of_at? (hplace : d.place true path = .ok names)
    (hat : d.at? names = some (.file content)) : d.withoutFile path = .ok (d.put none names) := by
  unfold withoutFile
  rw [find_of_place hplace, hat, Result.ok_bind, place_false_of_at? hplace hat]
  rfl

theorem has_of_at? {e : Entry} (hplace : d.place true path = .ok names) (hat : d.at? names = some e) :
    d.has path = .ok true := by
  unfold has
  rw [find_of_place hplace, hat]

theorem has_of_at?_eq_none (hplace : d.place true path = .ok names) (hat : d.at? names = none) :
    d.has path = .ok false := by
  unfold has
  rw [find_of_place hplace, hat]

end Files

end CodeReview.Disk
