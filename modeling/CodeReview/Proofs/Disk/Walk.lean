/-
Paths on a disk. A path as it is written leads where its parts lead (`place_eq_ok_iff`), a path leads to
the same place as long as no directory is lost (`walk_mono`), and what is found at a path is what lies at
its place (`find_of_place`).
-/
import CodeReview.Proofs.Disk.Tree
import CodeReview.Proofs.Text.Pieces

namespace CodeReview

/-! ## Parts of a path -/

namespace Path

variable {p : Path}

/-- Each part is a name: it is neither empty nor a single point, and has no slash in it. -/
def IsProper (p : Path) : Prop := ∀ part ∈ p.parts, part ≠ "" ∧ part ≠ "." ∧ '/' ∉ part.toList

instance : DecidablePred IsProper := fun p =>
  inferInstanceAs (Decidable (∀ part ∈ p.parts, part ≠ "" ∧ part ≠ "." ∧ '/' ∉ part.toList))

theorem isProper_ofString (path : String) : (ofString path).IsProper := by
  intro part hpart
  obtain ⟨hpieces, hnamed⟩ := List.mem_filter.1 hpart
  rw [Bool.and_eq_true, decide_eq_true_eq, decide_eq_true_eq] at hnamed
  refine ⟨hnamed.1, hnamed.2, ?_⟩
  obtain ⟨piece, hpiece, rfl⟩ := List.mem_map.1 hpieces
  rw [String.toList_ofList]
  exact Text.notMem_of_mem_splitOnChar hpiece

theorem IsProper.parent (h : p.IsProper) : p.parent.IsProper :=
  fun part hpart => h part (List.mem_of_mem_dropLast hpart)

/-- A path with a name is the name in its parent. -/
theorem parts_eq (h : p.name ≠ "") : p.parts = p.parent.parts ++ [p.name] := by
  unfold name at h ⊢
  unfold parent
  rcases List.eq_nil_or_concat p.parts with hparts | ⟨init, last, hparts⟩
  · rw [hparts] at h
    exact absurd rfl h
  · rw [hparts, List.concat_eq_append, List.dropLast_concat, List.getLast?_concat]
    rfl

theorem name_mem_parts (h : p.name ≠ "") : p.name ∈ p.parts := by
  rw [parts_eq h]
  exact List.mem_append_right _ (List.mem_singleton_self _)

theorem toList_pushn_slash (n : ℕ) : ("".pushn '/' n).toList = List.replicate n '/' := by
  rw [String.pushn_eq_repeat_push]
  induction n with
  | zero => rfl
  | succ n ih => rw [Nat.repeat, String.toList_push, ih, List.replicate_succ']

/-- A path is written with its slashes before its parts; without either, it is a point. -/
theorem toList_text (p : Path) : p.text.toList =
    if p.slashes = 0 ∧ p.parts = [] then ['.']
    else List.replicate p.slashes '/' ++ ['/'].intercalate (p.parts.map String.toList) := by
  unfold text
  dsimp only
  split_ifs with hslashes hparts hboth hboth hboth
  · rfl
  · exact absurd ⟨hslashes, List.isEmpty_iff.1 hparts⟩ hboth
  · exact absurd (List.isEmpty_iff.2 hboth.2) hparts
  · rw [hslashes, List.replicate_zero, List.nil_append, String.toList_intercalate]
    rfl
  · exact absurd hboth.1 hslashes
  · rw [String.toList_append, toList_pushn_slash, String.toList_intercalate]
    rfl

/-- The pieces of a written path are its parts, after pieces that lead nowhere. -/
theorem pieces_text (h : p.IsProper) : pieces p.text ≠ [] ∧
    ∃ blanks, (∀ b ∈ blanks, b = "" ∨ b = ".") ∧ pieces p.text = blanks ++ p.parts := by
  refine ⟨?_, ?_⟩
  · unfold pieces
    rw [ne_eq, List.map_eq_nil_iff]
    exact Text.splitOnChar_ne_nil _ _
  unfold pieces
  rw [toList_text]
  split_ifs with hpoint
  · rw [hpoint.2]
    exact ⟨["."], by simp, rfl⟩
  rw [Text.splitOnChar_replicate, List.map_append, List.map_replicate]
  rcases eq_or_ne p.parts [] with hparts | hparts
  · rw [hparts]
    refine ⟨List.replicate p.slashes "" ++ [""], fun b hb => .inl ?_, (List.append_nil _).symm⟩
    rcases List.mem_append.1 hb with hb | hb
    · exact List.eq_of_mem_replicate hb
    · exact List.mem_singleton.1 hb
  · refine ⟨List.replicate p.slashes "", fun b hb => .inl (List.eq_of_mem_replicate hb), ?_⟩
    have hslash : ∀ piece ∈ p.parts.map String.toList, '/' ∉ piece := by
      intro piece hpiece
      obtain ⟨part, hpart, rfl⟩ := List.mem_map.1 hpiece
      exact (h part hpart).2.2
    rw [Text.splitOnChar_intercalate (by simpa using hparts) hslash, List.map_map]
    have hsame : String.ofList ∘ String.toList = id := funext fun _ => String.ofList_toList
    rw [hsame, List.map_id]

/-- Parts begin with a character that is no slash. -/
theorem intercalate_eq_cons (h : p.IsProper) (hparts : p.parts ≠ []) :
    ∃ c rest, ['/'].intercalate (p.parts.map String.toList) = c :: rest ∧ c ≠ '/' := by
  obtain ⟨part, parts, heq⟩ := List.exists_cons_of_ne_nil hparts
  obtain ⟨hname, -, hslash⟩ := h part (heq ▸ List.mem_cons_self ..)
  have hchars : part.toList ≠ [] := fun hnone => hname (String.toList_eq_nil_iff.1 hnone)
  obtain ⟨c, chars, hc⟩ := List.exists_cons_of_ne_nil hchars
  rw [hc, List.mem_cons, not_or] at hslash
  rw [heq, List.map_cons, hc]
  cases parts with
  | nil => exact ⟨c, _, rfl, Ne.symm hslash.1⟩
  | cons next parts => exact ⟨c, _, rfl, Ne.symm hslash.1⟩

theorem text_ne_empty (h : p.IsProper) : p.text ≠ "" := by
  rw [ne_eq, ← String.toList_eq_nil_iff, toList_text]
  split_ifs with hpoint
  · exact not_false
  cases hslashes : p.slashes with
  | succ n => exact List.cons_ne_nil _ _
  | zero =>
    obtain ⟨c, rest, heq, -⟩ := intercalate_eq_cons h fun hnone => hpoint ⟨hslashes, hnone⟩
    rw [heq]
    exact List.cons_ne_nil _ _

theorem startsWith_text (h : p.IsProper) : p.text.startsWith "/" = decide (p.slashes ≠ 0) := by
  rw [Bool.eq_iff_iff, String.startsWith_string_iff, decide_eq_true_eq, toList_text]
  have hfirst (text : List Char) : "/".toList <+: text ↔ text.head? = some '/' := by
    cases text with
    | nil => simp
    | cons c text => simp [List.cons_prefix_cons, eq_comm]
  rw [hfirst]
  split_ifs with hpoint
  · simp [hpoint.1]
  cases hslashes : p.slashes with
  | succ n => simp [List.replicate_succ]
  | zero =>
    obtain ⟨c, rest, heq, hc⟩ := intercalate_eq_cons h fun hnone => hpoint ⟨hslashes, hnone⟩
    simp [heq, hc]

end Path

/-! ## Ways on a disk -/

namespace Disk

variable {d d' : Disk} {path path' : String} {new : Bool} {here names dir : List String}
  {pieces blanks : List String} {entries : List (String × Entry)}

/-- A directory lies at the place. -/
def HasDirectory (d : Disk) (names : List String) : Prop := (Entry.directory d.root).HasDirectory names

theorem hasDirectory_of_walk {piece : String} (h : d.walk path new here (piece :: pieces) = .ok names) :
    d.HasDirectory here := by
  unfold walk at h
  split at h
  · cases h
  · cases h
  · next entries hentries => exact ⟨entries, hentries⟩

theorem walk_blank {blank : String} (hhere : d.HasDirectory here) (hblank : blank = "" ∨ blank = ".") :
    d.walk path new here (blank :: pieces) = d.walk path new here pieces := by
  obtain ⟨entries, hentries⟩ := hhere
  have hat : d.at? here = some (.directory entries) := hentries
  rw [walk, hat]
  dsimp only
  rw [if_pos (by simpa using hblank)]

theorem walk_up (hhere : d.HasDirectory here) :
    d.walk path new here (".." :: pieces) = d.walk path new here.dropLast pieces := by
  obtain ⟨entries, hentries⟩ := hhere
  have hat : d.at? here = some (.directory entries) := hentries
  rw [walk, hat]
  rfl

/-- One step down. -/
theorem walk_down {piece : String} (hhere : d.at? here = some (.directory entries))
    (hblank : ¬ (piece = "" ∨ piece = ".")) (hup : piece ≠ "..") :
    d.walk path new here (piece :: pieces) =
      if maxName < Text.encodedSize piece.toList then .error (.nameTooLong path)
      else if (entries.lookup piece).isNone && !(new && pieces.isEmpty) then .error (.missing path)
      else d.walk path new (here ++ [piece]) pieces := by
  rw [walk, hhere]
  dsimp only
  rw [if_neg (by simpa using hblank), if_neg hup]

theorem walk_blanks (hhere : d.HasDirectory here) (hblanks : ∀ b ∈ blanks, b = "" ∨ b = ".") :
    d.walk path new here (blanks ++ pieces) = d.walk path new here pieces := by
  induction blanks with
  | nil => rfl
  | cons blank blanks ih =>
    rw [List.cons_append, walk_blank hhere (hblanks blank (List.mem_cons_self ..))]
    exact ih fun b hb => hblanks b (List.mem_cons_of_mem _ hb)

/-- What lies at a place inside a directory. -/
theorem at?_append_singleton (h : d.at? here = some (.directory entries)) (name : String) :
    d.at? (here ++ [name]) = entries.lookup name := by
  have hat : (Entry.directory d.root).at? here = some (.directory entries) := h
  unfold at?
  rw [Entry.at?_append, hat]
  show (Entry.directory entries).at? [name] = _
  rw [Entry.at?_directory_cons]
  cases entries.lookup name <;> rfl

/-- What holds at the end of a way, and of each way if it holds of what is left after its first piece, holds
of all ways with that end. -/
theorem walk_rec {motive : List String → List String → Prop} (nil : motive names [])
    (blank : ∀ {here piece pieces}, d.HasDirectory here → piece = "" ∨ piece = "." →
      motive here pieces → motive here (piece :: pieces))
    (up : ∀ {here pieces}, d.HasDirectory here → motive here.dropLast pieces →
      motive here (".." :: pieces))
    (down : ∀ {here piece pieces entries}, d.at? here = some (.directory entries) →
      ¬ (piece = "" ∨ piece = ".") → piece ≠ ".." → ¬ maxName < Text.encodedSize piece.toList →
      ((entries.lookup piece).isNone && !(new && pieces.isEmpty)) = false →
      d.walk path new (here ++ [piece]) pieces = .ok names → motive (here ++ [piece]) pieces →
      motive here (piece :: pieces))
    (h : d.walk path new here pieces = .ok names) : motive here pieces := by
  induction pieces generalizing here with
  | nil =>
    injection h with h
    exact h ▸ nil
  | cons piece pieces ih =>
    have hhere := hasDirectory_of_walk h
    by_cases hblank : piece = "" ∨ piece = "."
    · rw [walk_blank hhere hblank] at h
      exact blank hhere hblank (ih h)
    by_cases hup : piece = ".."
    · subst hup
      rw [walk_up hhere] at h
      exact up hhere (ih h)
    obtain ⟨entries, hentries⟩ := hhere
    rw [walk_down hentries hblank hup] at h
    split_ifs at h with hsize hmissing
    exact down hentries hblank hup hsize (eq_false_of_ne_true hmissing) h (ih h)

/-- A path leads to the same place as long as no directory is lost. -/
theorem walk_mono (hkeeps : ∀ names, d.HasDirectory names → d'.HasDirectory names)
    (h : d.walk path true here pieces = .ok names) : d'.walk path' true here pieces = .ok names := by
  refine walk_rec (motive := fun here pieces => d'.walk path' true here pieces = .ok names) rfl
    (fun hhere hblank ih => ?_) (fun hhere ih => ?_)
    (fun {here piece pieces entries} hentries hblank hup hsize _ hrest ih => ?_) h
  · rwa [walk_blank (hkeeps _ hhere) hblank]
  · rwa [walk_up (hkeeps _ hhere)]
  obtain ⟨entries', hentries'⟩ := hkeeps here ⟨entries, hentries⟩
  have hfound : ((entries'.lookup piece).isNone && !(true && pieces.isEmpty)) = false := by
    cases pieces with
    | nil => simp
    | cons next pieces =>
      -- the way goes on, so a directory lies there
      obtain ⟨inner, hinner⟩ := hkeeps _ (hasDirectory_of_walk hrest)
      have hat : d'.at? (here ++ [piece]) = some (.directory inner) := hinner
      rw [at?_append_singleton hentries'] at hat
      rw [hat]
      rfl
  rw [walk_down hentries' hblank hup, if_neg hsize, hfound]
  exact ih

/-- A way that is there throughout can be gone first. -/
theorem walk_append {more : List String} (h : d.walk path false here pieces = .ok dir) :
    d.walk path' new here (pieces ++ more) = d.walk path' new dir more := by
  refine walk_rec
    (motive := fun here pieces => d.walk path' new here (pieces ++ more) = d.walk path' new dir more)
    rfl (fun hhere hblank ih => ?_) (fun hhere ih => ?_)
    (fun {here piece pieces entries} hentries hblank hup hsize hthere _ ih => ?_) h
  · rwa [List.cons_append, walk_blank hhere hblank]
  · rwa [List.cons_append, walk_up hhere]
  have hfound : (entries.lookup piece).isNone = false := by simpa using hthere
  rw [List.cons_append, walk_down hentries hblank hup, if_neg hsize, hfound]
  exact ih

/-- Whether the last name has an entry decides whether a way for a new entry is there throughout. -/
theorem walk_false (h : d.walk path true here pieces = .ok names) :
    (∀ entry, d.at? names = some entry → d.walk path false here pieces = .ok names) ∧
      (d.at? names = none → d.walk path false here pieces = .ok names ∨
        d.walk path false here pieces = .error (.missing path)) := by
  refine walk_rec (motive := fun here pieces =>
      (∀ entry, d.at? names = some entry → d.walk path false here pieces = .ok names) ∧
        (d.at? names = none → d.walk path false here pieces = .ok names ∨
          d.walk path false here pieces = .error (.missing path)))
    ⟨fun _ _ => rfl, fun _ => .inl rfl⟩ (fun hhere hblank ih => ?_) (fun hhere ih => ?_)
    (fun {here piece pieces entries} hentries hblank hup hsize hthere hrest ih => ?_) h
  · rwa [walk_blank hhere hblank]
  · rwa [walk_up hhere]
  rw [walk_down hentries hblank hup, if_neg hsize]
  cases pieces with
  | nil =>
    injection hrest with hplace
    rw [← hplace, at?_append_singleton hentries]
    cases entries.lookup piece with
    | none => exact ⟨nofun, fun _ => .inr rfl⟩
    | some entry => exact ⟨fun _ _ => rfl, nofun⟩
  | cons next pieces =>
    have hfound : (entries.lookup piece).isNone = false := by simpa using hthere
    rw [hfound]
    exact ih

/-! ## Paths on a disk -/

/-- Where the parts of a path begin. -/
def start (d : Disk) (p : Path) : List String := if p.slashes = 0 then d.workingDirectory else []

/-- A path can be written as a system takes it. -/
def Takes (path : String) : Prop := '\x00' ∉ path.toList ∧ Text.encodedSize path.toList ≤ maxPath

theorem place_of_takes (htakes : Takes path) (hempty : path ≠ "") : d.place new path =
    (d.walk path new (if path.startsWith "/" then [] else d.workingDirectory)
      (Path.pieces path)).mapError .file := by
  unfold place
  rw [if_neg (by simpa using htakes.1), if_neg (by simpa using hempty), if_neg (not_lt.2 htakes.2)]

theorem place_eq_ok_iff : d.place new path = .ok names ↔ Takes path ∧ path ≠ "" ∧
    d.walk path new (if path.startsWith "/" then [] else d.workingDirectory) (Path.pieces path) =
      .ok names := by
  have hmap {result : Except FileFault (List String)} :
      result.mapError Fault.file = .ok names ↔ result = .ok names := by
    cases result <;> simp [Except.mapError]
  constructor
  · intro h
    have hunfolded := h
    unfold place at hunfolded
    split at hunfolded
    · cases hunfolded
    next hnull =>
    split at hunfolded
    · cases hunfolded
    next hempty =>
    split at hunfolded
    · cases hunfolded
    next hsize =>
    have htakes : Takes path := ⟨by simpa using hnull, not_lt.1 hsize⟩
    have hne : path ≠ "" := by simpa using hempty
    rw [place_of_takes htakes hne, hmap] at h
    exact ⟨htakes, hne, h⟩
  · rintro ⟨htakes, hne, h⟩
    rw [place_of_takes htakes hne, hmap]
    exact h

/-- A path leads where its parts lead. -/
theorem place_text_eq_ok_iff {p : Path} (hp : p.IsProper) : d.place new p.text = .ok names ↔
    Takes p.text ∧ d.HasDirectory (d.start p) ∧ d.walk p.text new (d.start p) p.parts = .ok names := by
  obtain ⟨hne, blanks, hblanks, hpieces⟩ := Path.pieces_text hp
  have hstart : (if p.text.startsWith "/" then [] else d.workingDirectory) = d.start p := by
    rw [Path.startsWith_text hp]
    unfold start
    by_cases hslashes : p.slashes = 0
    · simp [hslashes]
    · simp [hslashes]
  rw [place_eq_ok_iff, hstart]
  refine and_congr_right fun _ => ?_
  constructor
  · rintro ⟨-, h⟩
    obtain ⟨piece, more, heq⟩ := List.exists_cons_of_ne_nil hne
    have hhere : d.HasDirectory (d.start p) := hasDirectory_of_walk (heq ▸ h)
    rw [hpieces, walk_blanks hhere hblanks] at h
    exact ⟨hhere, h⟩
  · rintro ⟨hhere, h⟩
    rw [hpieces, walk_blanks hhere hblanks]
    exact ⟨Path.text_ne_empty hp, h⟩

/-- A path leads from its parent to its name. -/
theorem place_of_parent {p : Path} (hp : p.IsProper) (hname : p.name ≠ "")
    (hparent : d.place false p.parent.text = .ok dir) :
    d.place true p.text = .ok names ↔ Takes p.text ∧ d.walk p.text true dir [p.name] = .ok names := by
  obtain ⟨-, hstart, hwalk⟩ := (place_text_eq_ok_iff hp.parent).1 hparent
  have hsame : d.start p.parent = d.start p := rfl
  rw [hsame] at hstart hwalk
  rw [place_text_eq_ok_iff hp]
  have hparts : d.walk p.text true (d.start p) p.parts = d.walk p.text true dir [p.name] := by
    rw [Path.parts_eq hname, walk_append hwalk]
  rw [hparts]
  exact ⟨fun h => ⟨h.1, h.2.2⟩, fun h => ⟨h.1, hstart, h.2⟩⟩

/-- A path for a new entry leads to its name in the directory that its parent leads to. -/
theorem place_child_iff {p : Path} (hp : p.IsProper) (hname : p.name ≠ "") (hup : p.name ≠ "..")
    (hparent : d.place false p.parent.text = .ok dir) (hdir : d.HasDirectory dir) :
    d.place true p.text = .ok names ↔
      Takes p.text ∧ Text.encodedSize p.name.toList ≤ maxName ∧ dir ++ [p.name] = names := by
  obtain ⟨entries, hentries⟩ := hdir
  have hblank : ¬ (p.name = "" ∨ p.name = ".") :=
    not_or.2 ⟨hname, (hp p.name (Path.name_mem_parts hname)).2.1⟩
  rw [place_of_parent hp hname hparent, walk_down hentries hblank hup]
  refine and_congr_right fun _ => ?_
  split_ifs with hsize hmissing
  · exact iff_of_false nofun fun h => absurd h.1 (not_le.2 hsize)
  · simp at hmissing
  · exact ⟨fun h => ⟨not_lt.1 hsize, Except.ok.inj h⟩, fun h => congrArg Except.ok h.2⟩

/-- What is found at a path is what lies at its place. -/
theorem find_of_place (h : d.place true path = .ok names) : d.find path =
    match d.at? names with
    | some entry => .ok entry
    | none => .error (.file (.missing path)) := by
  obtain ⟨htakes, hempty, hwalk⟩ := place_eq_ok_iff.1 h
  obtain ⟨hthere, hmissing⟩ := walk_false hwalk
  have hfind (hplace : d.place false path = .ok names) : d.find path =
      match d.at? names with
      | some entry => .ok entry
      | none => .error (.file (.missing path)) := by
    unfold find
    rw [hplace]
    rfl
  cases hat : d.at? names with
  | some entry =>
    rw [hat] at hfind
    exact hfind (place_eq_ok_iff.2 ⟨htakes, hempty, hthere entry hat⟩)
  | none =>
    rw [hat] at hfind
    rcases hmissing hat with hwalk | hwalk
    · exact hfind (place_eq_ok_iff.2 ⟨htakes, hempty, hwalk⟩)
    · unfold find
      rw [place_of_takes htakes hempty, hwalk]
      rfl

/-- A path at which something lies leads there throughout. -/
theorem place_false_of_at? {entry : Entry} (h : d.place true path = .ok names)
    (hat : d.at? names = some entry) : d.place false path = .ok names := by
  obtain ⟨htakes, hempty, hwalk⟩ := place_eq_ok_iff.1 h
  exact place_eq_ok_iff.2 ⟨htakes, hempty, (walk_false hwalk).1 entry hat⟩

end Disk

end CodeReview
