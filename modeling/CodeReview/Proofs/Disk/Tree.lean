/-
Trees of directories and files. What an update puts at a place lies there afterwards, what lies beside it
is as before (`at?_update_append`), and no directory is lost (`HasDirectory.update`).
-/
import CodeReview.Disk
import Mathlib.Tactic

namespace CodeReview.Entry

variable {change : Option Entry → Option Entry} {name n : String} {names : List String}
  {all entries : List (String × Entry)} {inner entry : Entry}

/-! ## One directory -/

theorem lookup_updateNamed_of_ne (h : n ≠ name) :
    (updateNamed change name all).lookup n = all.lookup n := by
  have hbeq : (n == name) = false := beq_false_of_ne h
  induction all with
  | nil =>
    unfold updateNamed
    cases change none with
    | none => rfl
    | some e => simp [List.lookup_cons, hbeq]
  | cons first all ih =>
    obtain ⟨k, e⟩ := first
    unfold updateNamed
    split_ifs with hk
    · subst hk
      cases change (some e) with
      | none => simp [List.lookup_cons, hbeq]
      | some e' => simp [List.lookup_cons, hbeq]
    · rw [List.lookup_cons, List.lookup_cons, ih]

theorem lookup_updateNamed_some (h : change (all.lookup name) = some entry) :
    (updateNamed change name all).lookup name = some entry := by
  induction all with
  | nil =>
    have hnone : change none = some entry := h
    unfold updateNamed
    simp [hnone]
  | cons first all ih =>
    obtain ⟨k, e⟩ := first
    unfold updateNamed
    rw [List.lookup_cons] at h
    split_ifs with hk
    · subst hk
      rw [beq_self_eq_true] at h
      have hsome : change (some e) = some entry := h
      simp [hsome]
    · have hbeq : (name == k) = false := beq_false_of_ne (Ne.symm hk)
      rw [hbeq] at h
      rw [List.lookup_cons, hbeq]
      exact ih h

theorem lookup_eq_none_of_notMem (h : name ∉ all.map Prod.fst) : all.lookup name = none := by
  rw [List.lookup_eq_none_iff]
  rintro ⟨k, e⟩ hmem
  have hne : name ≠ k := by
    rintro rfl
    exact h (List.mem_map_of_mem (f := Prod.fst) hmem)
  exact bne_iff_ne.2 hne

/-- Where no name stands twice, an entry that is taken out is gone. -/
theorem lookup_updateNamed_none (hnames : (all.map Prod.fst).Nodup)
    (h : change (all.lookup name) = none) : (updateNamed change name all).lookup name = none := by
  induction all with
  | nil =>
    have hnone : change none = none := h
    unfold updateNamed
    simp [hnone]
  | cons first all ih =>
    obtain ⟨k, e⟩ := first
    rw [List.map_cons, List.nodup_cons] at hnames
    unfold updateNamed
    rw [List.lookup_cons] at h
    split_ifs with hk
    · subst hk
      rw [beq_self_eq_true] at h
      have hnone : change (some e) = none := h
      rw [hnone]
      exact lookup_eq_none_of_notMem hnames.1
    · have hbeq : (name == k) = false := beq_false_of_ne (Ne.symm hk)
      rw [hbeq] at h
      rw [List.lookup_cons, hbeq]
      exact ih hnames.2 h

theorem mem_names_updateNamed (h : n ∈ (updateNamed change name all).map Prod.fst) :
    n = name ∨ n ∈ all.map Prod.fst := by
  induction all with
  | nil =>
    unfold updateNamed at h
    simp at h
    exact .inl h.2
  | cons first all ih =>
    obtain ⟨k, e⟩ := first
    unfold updateNamed at h
    split_ifs at h with hk
    · subst hk
      cases hchange : change (some e) with
      | none =>
        rw [hchange] at h
        exact .inr (List.mem_cons_of_mem _ h)
      | some e' =>
        rw [hchange] at h
        exact (List.mem_cons.1 h).imp_right (List.mem_cons_of_mem _)
    · rw [List.map_cons, List.mem_cons] at h
      rcases h with rfl | h
      · exact .inr (List.mem_cons_self ..)
      · exact (ih h).imp_right (List.mem_cons_of_mem _)

theorem nodup_updateNamed (hnames : (all.map Prod.fst).Nodup) :
    ((updateNamed change name all).map Prod.fst).Nodup := by
  induction all with
  | nil =>
    unfold updateNamed
    cases change none <;> simp
  | cons first all ih =>
    obtain ⟨k, e⟩ := first
    rw [List.map_cons, List.nodup_cons] at hnames
    unfold updateNamed
    split_ifs with hk
    · subst hk
      cases change (some e) with
      | none => simpa using hnames.2
      | some e' => simpa using hnames
    · rw [List.map_cons, List.nodup_cons]
      refine ⟨fun hmem => ?_, ih hnames.2⟩
      rcases mem_names_updateNamed hmem with heq | hmem
      · exact hk heq
      · exact hnames.1 hmem

/-! ## Places -/

theorem at?_directory_cons (all : List (String × Entry)) (name : String) (names : List String) :
    (directory all).at? (name :: names) = (all.lookup name).bind (·.at? names) := by
  have hentries : (directory all).entries.lookup name = all.lookup name := rfl
  rw [at?, hentries]
  cases all.lookup name <;> rfl

theorem at?_append (entry : Entry) (names more : List String) :
    entry.at? (names ++ more) = (entry.at? names).bind (·.at? more) := by
  induction names generalizing entry with
  | nil => rfl
  | cons name names ih =>
    cases entry with
    | file content => rfl
    | directory all =>
      rw [List.cons_append, at?_directory_cons, at?_directory_cons]
      cases all.lookup name with
      | none => rfl
      | some inner => exact ih inner

/-- A directory lies at the place. -/
def HasDirectory (entry : Entry) (names : List String) : Prop :=
  ∃ entries, entry.at? names = some (directory entries)

/-- What has a directory somewhere in it is a directory. -/
theorem HasDirectory.eq_directory (h : entry.HasDirectory names) :
    entry = directory entry.entries := by
  cases entry with
  | directory all => rfl
  | file content =>
    obtain ⟨entries, h⟩ := h
    cases names with
    | nil => cases h
    | cons name names => cases h

theorem hasDirectory_cons_iff : (directory all).HasDirectory (name :: names) ↔
    ∃ inner, all.lookup name = some inner ∧ inner.HasDirectory names := by
  unfold HasDirectory
  rw [at?_directory_cons]
  cases all.lookup name with
  | none => simp
  | some inner => simp

/-! ## Updates -/

theorem update_cons_cons (change : Option Entry → Option Entry) (name n : String) (names : List String)
    (all : List (String × Entry)) : update change (name :: n :: names) all =
      updateNamed (fun entry => some (directory (update change (n :: names)
        ((entry.map Entry.entries).getD [])))) name all := rfl

theorem update_cons_append (change : Option Entry → Option Entry) (first name : String)
    (names : List String) (all : List (String × Entry)) : update change (first :: names ++ [name]) all =
      updateNamed (fun entry => some (directory (update change (names ++ [name])
        ((entry.map Entry.entries).getD [])))) first all := by
  cases names <;> rfl

/-- An update at a place where no directory lies leaves all directories where they are. -/
theorem HasDirectory.update {places : List String} (h : (directory all).HasDirectory places)
    (hplace : ¬ (directory all).HasDirectory names) :
    (directory (update change names all)).HasDirectory places := by
  induction names generalizing all places with
  | nil => exact absurd ⟨all, rfl⟩ hplace
  | cons name names ih =>
    cases places with
    | nil => exact ⟨_, rfl⟩
    | cons first places =>
      obtain ⟨inner, hinner, hdirectory⟩ := hasDirectory_cons_iff.1 h
      rw [hasDirectory_cons_iff] at hplace ⊢
      have hinside : first = name → ¬ inner.HasDirectory names := by
        rintro rfl hnames
        exact hplace ⟨inner, hinner, hnames⟩
      cases names with
      | nil =>
        -- what lies there is no directory, so nothing lies in it
        have hne : first ≠ name := fun heq =>
          hinside heq ⟨_, congrArg some hdirectory.eq_directory⟩
        refine ⟨inner, ?_, hdirectory⟩
        rw [update, lookup_updateNamed_of_ne hne]
        exact hinner
      | cons n names =>
        rw [update_cons_cons]
        rcases eq_or_ne first name with rfl | hne
        · have heq := hdirectory.eq_directory
          rw [heq] at hdirectory hinside
          exact ⟨_, lookup_updateNamed_some (by rw [hinner]; rfl), ih hdirectory (hinside rfl)⟩
        · exact ⟨inner, (lookup_updateNamed_of_ne hne).trans hinner, hdirectory⟩

/-- An update of an entry in a directory. -/
theorem at?_update_append (h : (directory all).at? names = some (directory entries)) (name : String) :
    (directory (update change (names ++ [name]) all)).at? names =
      some (directory (updateNamed change name entries)) := by
  induction names generalizing all with
  | nil =>
    have heq : all = entries := by
      injection h with h
      injection h
    rw [heq]
    rfl
  | cons first names ih =>
    rw [at?_directory_cons] at h ⊢
    obtain ⟨inner, hinner, hat⟩ := Option.bind_eq_some_iff.1 h
    have heq := HasDirectory.eq_directory ⟨entries, hat⟩
    rw [heq] at hat
    rw [update_cons_append, lookup_updateNamed_some (by rw [hinner])]
    exact ih hat

/-- A file stays where it is when something is put into a directory in another place, and no directory is
lost by it. -/
theorem at?_update_of_ne {places : List String} {content : Text.Bytes}
    (h : (directory all).at? places = some (file content)) (hne : places ≠ names ++ [name])
    (hdirectory : (directory all).HasDirectory names)
    (hfree : ¬ (directory all).HasDirectory (names ++ [name])) :
    (directory (update change (names ++ [name]) all)).at? places = some (file content) := by
  induction names generalizing all places with
  | nil =>
    cases places with
    | nil => cases h
    | cons first places =>
      rw [at?_directory_cons] at h ⊢
      have hother : first ≠ name := by
        rintro rfl
        obtain ⟨inner, hinner, hat⟩ := Option.bind_eq_some_iff.1 h
        cases places with
        | nil => exact hne rfl
        | cons second places =>
          -- a file further down would lie in a directory of this name
          cases inner with
          | file other => cases hat
          | directory entries =>
            refine hfree ⟨entries, ?_⟩
            rw [List.nil_append, at?_directory_cons, hinner]
            rfl
      rw [List.nil_append, update, lookup_updateNamed_of_ne hother]
      exact h
  | cons n names ih =>
    cases places with
    | nil => cases h
    | cons first places =>
      rw [at?_directory_cons] at h
      rw [update_cons_append, at?_directory_cons]
      rcases eq_or_ne first n with rfl | hother
      · obtain ⟨inner, hinner, hat⟩ := Option.bind_eq_some_iff.1 h
        obtain ⟨inner', hinner', hinside⟩ := hasDirectory_cons_iff.1 hdirectory
        obtain rfl := Option.some.inj (hinner.symm.trans hinner')
        have heq := hinside.eq_directory
        rw [heq] at hat hinside
        rw [lookup_updateNamed_some (by rw [hinner])]
        refine ih hat (fun hsame => hne ?_) hinside fun hthere => hfree ?_
        · rw [hsame, List.cons_append]
        · rw [List.cons_append, hasDirectory_cons_iff]
          exact ⟨inner, hinner, heq ▸ hthere⟩
      · rw [lookup_updateNamed_of_ne hother]
        exact h

/-! ## Names -/

/-- Neither the entry nor any directory in it lists a name twice. -/
def IsProper (entry : Entry) : Prop :=
  ∀ names entries, entry.at? names = some (directory entries) → (entries.map Prod.fst).Nodup

theorem isProper_file (content : Text.Bytes) : (file content).IsProper := by
  rintro (_ | ⟨name, names⟩) entries h
  · cases h
  · cases h

theorem isProper_directory_iff : (directory all).IsProper ↔
    (all.map Prod.fst).Nodup ∧ ∀ name inner, all.lookup name = some inner → inner.IsProper := by
  constructor
  · intro h
    refine ⟨h [] all rfl, fun name inner hinner names entries hat => h (name :: names) entries ?_⟩
    rw [at?_directory_cons, hinner]
    exact hat
  · rintro ⟨hnames, hinner⟩ (_ | ⟨name, names⟩) entries hat
    · injection hat with hat
      injection hat with hat
      rwa [← hat]
    · rw [at?_directory_cons] at hat
      obtain ⟨inner, hlookup, hat⟩ := Option.bind_eq_some_iff.1 hat
      exact hinner name inner hlookup names entries hat

theorem isProper_directory_singleton (name : String) (hentry : entry.IsProper) :
    (directory [(name, entry)]).IsProper := by
  refine isProper_directory_iff.2 ⟨List.nodup_singleton name, fun other inner h => ?_⟩
  rw [List.lookup_cons] at h
  split at h
  · exact Option.some.inj h ▸ hentry
  · cases h

theorem isProper_directory_file (name : String) (content : Text.Bytes) :
    (directory [(name, file content)]).IsProper :=
  isProper_directory_singleton name (isProper_file content)

theorem isProper_entries (h : entry.IsProper) : (directory entry.entries).IsProper := by
  cases entry with
  | directory all => exact h
  | file content => exact isProper_directory_iff.2 ⟨List.nodup_nil, fun _ _ h => nomatch h⟩

theorem IsProper.updateNamed (h : (directory all).IsProper)
    (hchange : ∀ inner e, all.lookup name = inner → change inner = some e → e.IsProper) :
    (directory (updateNamed change name all)).IsProper := by
  rw [isProper_directory_iff] at *
  refine ⟨nodup_updateNamed h.1, fun n inner hinner => ?_⟩
  rcases eq_or_ne n name with rfl | hne
  · cases hnew : change (all.lookup n) with
    | none =>
      rw [lookup_updateNamed_none h.1 hnew] at hinner
      cases hinner
    | some e =>
      rw [lookup_updateNamed_some hnew] at hinner
      injection hinner with heq
      rw [← heq]
      exact hchange _ e rfl hnew
  · rw [lookup_updateNamed_of_ne hne] at hinner
    exact h.2 n inner hinner

theorem IsProper.update (h : (directory all).IsProper)
    (hchange : ∀ inner e, change inner = some e → e.IsProper) :
    (directory (update change names all)).IsProper := by
  induction names generalizing all with
  | nil => exact h
  | cons name names ih =>
    cases names with
    | nil => exact h.updateNamed fun inner e _ hnew => hchange inner e hnew
    | cons n names =>
      rw [update_cons_cons]
      refine h.updateNamed fun inner e hinner hnew => ?_
      injection hnew with heq
      rw [← heq]
      refine ih ?_
      cases inner with
      | none => exact isProper_directory_iff.2 ⟨List.nodup_nil, fun _ _ h => nomatch h⟩
      | some inner => exact isProper_entries ((isProper_directory_iff.1 h).2 name inner hinner)

/-- Where no name stands twice, taking something out of a directory brings no directory to light. -/
theorem hasDirectory_of_update_none {places : List String} (hproper : (directory all).IsProper)
    (hdirectory : (directory all).HasDirectory names)
    (h : (directory (update (fun _ => none) (names ++ [name]) all)).HasDirectory places) :
    (directory all).HasDirectory places := by
  induction names generalizing all places with
  | nil =>
    cases places with
    | nil => exact ⟨all, rfl⟩
    | cons first places =>
      rw [List.nil_append, update, hasDirectory_cons_iff] at h
      rw [hasDirectory_cons_iff]
      obtain ⟨inner, hinner, hinside⟩ := h
      rcases eq_or_ne first name with rfl | hother
      · rw [lookup_updateNamed_none (isProper_directory_iff.1 hproper).1 rfl] at hinner
        cases hinner
      · rw [lookup_updateNamed_of_ne hother] at hinner
        exact ⟨inner, hinner, hinside⟩
  | cons n names ih =>
    cases places with
    | nil => exact ⟨all, rfl⟩
    | cons first places =>
      rw [update_cons_append, hasDirectory_cons_iff] at h
      rw [hasDirectory_cons_iff]
      obtain ⟨inner, hinner, hinside⟩ := h
      rcases eq_or_ne first n with rfl | hother
      · obtain ⟨old, hold, hway⟩ := hasDirectory_cons_iff.1 hdirectory
        have heq := hway.eq_directory
        have hnew := hinner.symm.trans (lookup_updateNamed_some (by rw [hold]))
        obtain rfl := Option.some.inj hnew
        refine ⟨old, hold, ?_⟩
        have hold' := (isProper_directory_iff.1 hproper).2 first old hold
        rw [heq] at hway hold' ⊢
        exact ih hold' hway hinside
      · rw [lookup_updateNamed_of_ne hother] at hinner
        exact ⟨inner, hinner, hinside⟩

end CodeReview.Entry

namespace CodeReview

/-! ## What is read of a file -/

/-- A text without carriage returns is read as it is. -/
theorem Text.normalizeNewlines_eq_self {text : List Char} (h : '\r' ∉ text) :
    normalizeNewlines text = text := by
  induction text with
  | nil => rfl
  | cons c text ih =>
    rw [List.mem_cons, not_or] at h
    have hc : c ≠ '\r' := Ne.symm h.1
    rw [normalizeNewlines.eq_2 c text fun rest hreturn _ => hc hreturn, if_neg hc, ih h.2]

namespace Disk

variable {d : Disk} {path : String} {bytes : Text.Bytes} {chars : List Char}

theorem size_of_find (h : d.find path = .ok (.file bytes)) : d.size path = .ok bytes.length := by
  unfold size
  rw [h]
  rfl

theorem readText_of_find (h : d.find path = .ok (.file bytes)) (hutf8 : Text.decode bytes = .ok chars) :
    d.readText path = .ok (Text.normalizeNewlines chars) := by
  unfold readText read
  rw [h]
  simp only [bind, Except.bind, pure, Except.pure, hutf8]

end Disk

end CodeReview
