/-
The order in which directories list their entries. Two trees that differ in nothing else have the same at
every place, again up to this order (`Reordered.at?_spec`), as long as no directory lists a name twice. So a
path that leads somewhere in one leads there in the other (`find_reordered`).
-/
import CodeReview.Proofs.Disk.Writing
import Mathlib.Data.Option.Defs

namespace CodeReview

namespace Entry

/-- The entries differ at most in the order in which directories list what is in them. -/
inductive Reordered : Entry → Entry → Prop
  | refl (entry : Entry) : Reordered entry entry
  | trans {first second third : Entry} (h : Reordered first second) (h' : Reordered second third) :
    Reordered first third
  | order {entries entries' : List (String × Entry)} (h : entries.Perm entries') :
    Reordered (.directory entries) (.directory entries')
  | inside {before after : List (String × Entry)} {name : String} {entry entry' : Entry}
    (h : Reordered entry entry') :
    Reordered (.directory (before ++ (name, entry) :: after)) (.directory (before ++ (name, entry') :: after))

variable {name : String} {names : List String} {all all' before after : List (String × Entry)}
  {entry entry' inner : Entry} {content : Text.Bytes}

/-! ## Looking up -/

/-- Where no name comes twice, each entry is found by its name. -/
theorem lookup_eq_some_iff_mem (hnames : (all.map Prod.fst).Nodup) :
    all.lookup name = some inner ↔ (name, inner) ∈ all := by
  induction all with
  | nil => exact iff_of_false nofun List.not_mem_nil
  | cons first all ih =>
    obtain ⟨n, e⟩ := first
    rw [List.map_cons, List.nodup_cons] at hnames
    rw [List.lookup_cons, List.mem_cons, Prod.mk.injEq]
    by_cases hn : name = n
    · subst hn
      have hnone : (name, inner) ∉ all := fun h =>
        hnames.1 (List.mem_map.2 ⟨_, h, rfl⟩)
      rw [beq_self_eq_true, or_iff_left hnone, and_iff_right rfl]
      exact Option.some_inj.trans eq_comm
    · rw [beq_false_of_ne hn, ih hnames.2]
      exact (or_iff_right fun h => hn h.1).symm

theorem IsProper.at? (h : entry.IsProper) (hat : entry.at? names = some inner) : inner.IsProper := by
  intro more entries hmore
  refine h (names ++ more) entries ?_
  rw [at?_append, hat]
  exact hmore

/-- A directory is proper if it lists no name twice and all that is in it is proper. -/
theorem isProper_directory_iff_forall_mem :
    (directory all).IsProper ↔ (all.map Prod.fst).Nodup ∧ ∀ p ∈ all, p.2.IsProper := by
  rw [isProper_directory_iff]
  refine and_congr_right fun hnames => ?_
  simp only [lookup_eq_some_iff_mem hnames, Prod.forall]

theorem lookup_eq_of_perm (hnames : (all.map Prod.fst).Nodup) (h : all.Perm all') :
    all.lookup name = all'.lookup name := by
  refine Option.ext fun inner => ?_
  rw [lookup_eq_some_iff_mem hnames, lookup_eq_some_iff_mem ((h.map Prod.fst).nodup hnames), h.mem_iff]

/-- An entry put in the place of another is found by the name of the other, and all else is found as before. -/
theorem lookup_replaced (hnames : ((before ++ (name, entry) :: after).map Prod.fst).Nodup) (entry' : Entry)
    (n : String) :
    n = name ∧ (before ++ (name, entry) :: after).lookup n = some entry ∧
        (before ++ (name, entry') :: after).lookup n = some entry' ∨
      n ≠ name ∧
        (before ++ (name, entry') :: after).lookup n = (before ++ (name, entry) :: after).lookup n := by
  by_cases hn : n = name
  · subst hn
    have hnames' : ((before ++ (n, entry') :: after).map Prod.fst).Nodup := by simpa using hnames
    exact .inl ⟨rfl, (lookup_eq_some_iff_mem hnames).2 (by simp), (lookup_eq_some_iff_mem hnames').2 (by simp)⟩
  · refine .inr ⟨hn, ?_⟩
    rw [List.lookup_append, List.lookup_append, List.lookup_cons, List.lookup_cons, beq_false_of_ne hn]

/-! ## Trees in another order -/

namespace Reordered

theorem eq_file (h : Reordered (.file content) entry) : entry = .file content := by
  generalize hfile : Entry.file content = first at h
  induction h with
  | refl first => rfl
  | trans _ _ ih ih' =>
    have hsecond := ih hfile
    exact (ih' (hfile.trans hsecond.symm)).trans hsecond
  | order h => cases hfile
  | inside h ih => cases hfile

theorem eq_directory (h : Reordered (.directory all) entry) : ∃ all', entry = .directory all' := by
  generalize hdirectory : Entry.directory all = first at h
  induction h generalizing all with
  | refl first => exact ⟨all, hdirectory.symm⟩
  | trans _ _ ih ih' =>
    obtain ⟨all', rfl⟩ := ih hdirectory
    exact ih' rfl
  | order h => exact ⟨_, rfl⟩
  | inside h ih => exact ⟨_, rfl⟩

theorem rel_refl (found : Option Entry) : Option.Rel Reordered found found := by
  cases found with
  | none => exact .none
  | some entry => exact .some (.refl entry)

theorem rel_trans {a b c : Option Entry} (h : Option.Rel Reordered a b) (h' : Option.Rel Reordered b c) :
    Option.Rel Reordered a c := by
  cases h with
  | none => exact h'
  | some h =>
    cases h' with
    | some h' => exact .some (h.trans h')

/-- In a tree that lists no name twice, what lies at a place lies there in any order. -/
theorem at?_spec (h : Reordered entry entry') (hproper : entry.IsProper) :
    entry'.IsProper ∧ ∀ names, Option.Rel Reordered (entry.at? names) (entry'.at? names) := by
  induction h with
  | refl entry => exact ⟨hproper, fun names => rel_refl _⟩
  | @trans first second third _ _ ih ih' =>
    obtain ⟨hsecond, hplaces⟩ := ih hproper
    obtain ⟨hthird, hplaces'⟩ := ih' hsecond
    exact ⟨hthird, fun names => rel_trans (hplaces names) (hplaces' names)⟩
  | @order entries entries' h =>
    -- the directory itself is in another order; below it nothing changes
    obtain ⟨hnames, hinner⟩ := isProper_directory_iff.1 hproper
    have hlookup (name : String) : entries'.lookup name = entries.lookup name :=
      (lookup_eq_of_perm hnames h).symm
    refine ⟨isProper_directory_iff.2 ⟨(h.map Prod.fst).nodup hnames, fun name inner hfound => ?_⟩, ?_⟩
    · exact hinner name inner (hlookup name ▸ hfound)
    · rintro (_ | ⟨name, names⟩)
      · exact .some (.order h)
      · rw [at?_directory_cons, at?_directory_cons, hlookup]
        exact rel_refl _
  | @inside before after name entry entry' h ih =>
    -- only what is under the name may change, and by induction only in its order
    obtain ⟨hnames, hinner⟩ := isProper_directory_iff.1 hproper
    have hreplaced := lookup_replaced hnames entry'
    obtain ⟨hentry', hplaces⟩ := ih ((isProper_directory_iff_forall_mem.1 hproper).2 (name, entry) (by simp))
    refine ⟨isProper_directory_iff.2 ⟨by simpa using hnames, fun n inner hfound => ?_⟩, ?_⟩
    · rcases hreplaced n with ⟨-, -, hnew⟩ | ⟨-, hsame⟩
      · rw [hnew] at hfound
        exact Option.some.inj hfound ▸ hentry'
      · exact hinner n inner (hsame ▸ hfound)
    · rintro (_ | ⟨n, names⟩)
      · exact .some (.inside h)
      · rw [at?_directory_cons, at?_directory_cons]
        rcases hreplaced n with ⟨-, hold, hnew⟩ | ⟨-, hsame⟩
        · rw [hold, hnew]
          exact hplaces names
        · rw [hsame]
          exact rel_refl _

end Reordered

end Entry

/-! ## Disks in another order -/

namespace Disk

variable {d d' : Disk} {path : String} {new : Bool} {here pieces : List String}

/-- The disks differ at most in the order in which directories list their entries. -/
structure Reordered (d d' : Disk) : Prop where
  root : (Entry.directory d.root).Reordered (.directory d'.root)
  workingDirectory : d'.workingDirectory = d.workingDirectory

/-- A path leads to the same place in any order. -/
theorem walk_reordered (h : d.Reordered d') (hproper : d.IsProper) :
    d'.walk path new here pieces = d.walk path new here pieces := by
  induction pieces generalizing here with
  | nil => rfl
  | cons piece pieces ih =>
    have hplaces := (h.root.at?_spec hproper).2
    have hhere : Option.Rel Entry.Reordered (d.at? here) (d'.at? here) := hplaces here
    unfold walk
    cases hat : d.at? here with
    | none =>
      cases hat' : d'.at? here with
      | none => rfl
      | some e' => rw [hat, hat'] at hhere; cases hhere
    | some e =>
      cases hat' : d'.at? here with
      | none => rw [hat, hat'] at hhere; cases hhere
      | some e' =>
        rw [hat, hat'] at hhere
        obtain hentry : e.Reordered e' := by cases hhere; assumption
        cases e with
        | file content =>
          rw [hentry.eq_file]
        | directory entries =>
          obtain ⟨entries', rfl⟩ := hentry.eq_directory
          have hfound : (entries'.lookup piece).isNone = (entries.lookup piece).isNone := by
            have hinside : Option.Rel Entry.Reordered (d.at? (here ++ [piece])) (d'.at? (here ++ [piece])) :=
              hplaces (here ++ [piece])
            rw [at?_append_singleton hat, at?_append_singleton hat'] at hinside
            generalize entries.lookup piece = a at hinside
            generalize entries'.lookup piece = b at hinside
            cases hinside <;> rfl
          simp only [hfound, ih]

/-- What is found at a path is found there in any order. -/
theorem find_reordered (h : d.Reordered d') (hproper : d.IsProper) (path : String) :
    (∃ entry entry', d.find path = .ok entry ∧ d'.find path = .ok entry' ∧ entry.Reordered entry') ∨
      ∃ fault, d.find path = .error fault ∧ d'.find path = .error fault := by
  have hplace : d'.place false path = d.place false path := by
    unfold place
    rw [h.workingDirectory]
    simp only [walk_reordered h hproper]
  unfold find
  rw [hplace]
  cases d.place false path with
  | error fault => exact .inr ⟨fault, rfl, rfl⟩
  | ok names =>
    have hat : Option.Rel Entry.Reordered (d.at? names) (d'.at? names) := (h.root.at?_spec hproper).2 names
    rw [Result.ok_bind, Result.ok_bind]
    generalize d.at? names = a at hat
    generalize d'.at? names = b at hat
    cases hat with
    | none => exact .inr ⟨_, rfl, rfl⟩
    | some hentry => exact .inl ⟨_, _, rfl, rfl, hentry⟩

end Disk

end CodeReview
