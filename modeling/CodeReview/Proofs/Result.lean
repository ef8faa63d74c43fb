/-
Results: when a computation that may fail gives something, step by step and over a list.
-/
import CodeReview.Fault
import Mathlib.Data.List.Forall2

namespace CodeReview.Result

variable {α β : Type}

theorem ok_bind (a : α) (next : α → Except Fault β) : (.ok a >>= next) = next a := rfl

theorem bind_eq_ok_iff {first : Except Fault α} {next : α → Except Fault β} {b : β} :
    (first >>= next) = .ok b ↔ ∃ a, first = .ok a ∧ next a = .ok b := by
  cases first with
  | error fault => exact ⟨fun h => (nomatch h), fun ⟨_, h, _⟩ => (nomatch h)⟩
  | ok a => exact ⟨fun h => ⟨a, rfl, h⟩, fun ⟨_, h, hnext⟩ => Except.ok.inj h ▸ hnext⟩

theorem map_eq_ok_iff {result : Except Fault α} {f : α → β} {b : β} :
    result.map f = .ok b ↔ ∃ a, result = .ok a ∧ f a = b := by
  cases result with
  | error fault => exact ⟨fun h => (nomatch h), fun ⟨_, h, _⟩ => (nomatch h)⟩
  | ok a =>
    refine ⟨fun h => ⟨a, rfl, Except.ok.inj h⟩, fun ⟨_, h, hb⟩ => ?_⟩
    rw [Except.ok.inj h]
    exact congrArg Except.ok hb

/-- Something is given. -/
def Returns (result : Except Fault α) : Prop := ∃ a, result = .ok a

theorem returns_ok (a : α) : Returns (.ok a : Except Fault α) := ⟨a, rfl⟩

theorem not_returns_error (fault : Fault) : ¬ Returns (.error fault : Except Fault α) :=
  fun ⟨_, h⟩ => nomatch h

theorem returns_map_iff {result : Except Fault α} {f : α → β} :
    Returns (result.map f) ↔ Returns result := by
  cases result with
  | error fault => exact iff_of_false (not_returns_error fault) (not_returns_error fault)
  | ok a => exact iff_of_true (returns_ok _) (returns_ok _)

/-- Two steps give something exactly if the first does and the second goes on from it. -/
theorem returns_bind_iff {first : Except Fault α} {next : α → Except Fault β} :
    Returns (first >>= next) ↔ ∃ a, first = .ok a ∧ Returns (next a) := by
  constructor
  · rintro ⟨b, h⟩
    obtain ⟨a, hfirst, hnext⟩ := bind_eq_ok_iff.1 h
    exact ⟨a, hfirst, b, hnext⟩
  · rintro ⟨a, hfirst, b, hnext⟩
    exact ⟨b, bind_eq_ok_iff.2 ⟨a, hfirst, hnext⟩⟩

theorem mapM_cons_eq_ok_iff {f : α → Except Fault β} {item : α} {items : List α} {bs : List β} :
    (item :: items).mapM f = .ok bs ↔
      ∃ b rest, f item = .ok b ∧ items.mapM f = .ok rest ∧ bs = b :: rest := by
  rw [List.mapM_cons, bind_eq_ok_iff]
  constructor
  · rintro ⟨b, hb, hrest⟩
    obtain ⟨rest, hrest, hbs⟩ := bind_eq_ok_iff.1 hrest
    exact ⟨b, rest, hb, hrest, (Except.ok.inj hbs).symm⟩
  · rintro ⟨b, rest, hb, hrest, rfl⟩
    exact ⟨b, hb, bind_eq_ok_iff.2 ⟨rest, hrest, rfl⟩⟩

/-- Something is given for a list exactly if it is for each item. -/
theorem returns_mapM_iff {f : α → Except Fault β} {items : List α} :
    Returns (items.mapM f) ↔ ∀ item ∈ items, Returns (f item) := by
  induction items with
  | nil => exact iff_of_true (returns_ok _) (fun _ h => nomatch h)
  | cons item items ih =>
    rw [List.mapM_cons, returns_bind_iff, List.forall_mem_cons]
    constructor
    · rintro ⟨b, hitem, hrest⟩
      obtain ⟨bs, hitems, -⟩ := returns_bind_iff.1 hrest
      exact ⟨⟨b, hitem⟩, ih.1 ⟨bs, hitems⟩⟩
    · rintro ⟨⟨b, hitem⟩, hrest⟩
      obtain ⟨bs, hitems⟩ := ih.2 hrest
      exact ⟨b, hitem, returns_bind_iff.2 ⟨bs, hitems, returns_ok _⟩⟩

/-- What is given for a list is given for its items. -/
theorem exists_of_mem_mapM {f : α → Except Fault β} {items : List α} {bs : List β} {b : β}
    (h : items.mapM f = .ok bs) (hb : b ∈ bs) : ∃ item ∈ items, f item = .ok b := by
  induction items generalizing bs with
  | nil =>
    cases h
    cases hb
  | cons item items ih =>
    obtain ⟨b', rest, hitem, hrest, rfl⟩ := mapM_cons_eq_ok_iff.1 h
    rcases List.mem_cons.1 hb with rfl | hb
    · exact ⟨item, List.mem_cons_self .., hitem⟩
    · obtain ⟨item', hmem, hitem'⟩ := ih hrest hb
      exact ⟨item', List.mem_cons_of_mem _ hmem, hitem'⟩

/-- What is given for a list is given item by item. -/
theorem forall₂_of_mapM {f : α → Except Fault β} {items : List α} {bs : List β}
    (h : items.mapM f = .ok bs) : List.Forall₂ (fun item b => f item = .ok b) items bs := by
  induction items generalizing bs with
  | nil =>
    cases h
    exact .nil
  | cons item items ih =>
    obtain ⟨b, rest, hitem, hrest, rfl⟩ := mapM_cons_eq_ok_iff.1 h
    exact .cons hitem (ih hrest)

/-- What is given for a list tells its items, if what is given for one item tells the item. -/
theorem map_eq_of_mapM {f : α → Except Fault β} {g : β → α} (hg : ∀ a b, f a = .ok b → g b = a)
    {items : List α} {bs : List β} (h : items.mapM f = .ok bs) : bs.map g = items := by
  induction items generalizing bs with
  | nil =>
    cases h
    rfl
  | cons item items ih =>
    obtain ⟨b, rest, hitem, hrest, rfl⟩ := mapM_cons_eq_ok_iff.1 h
    rw [List.map_cons, hg item b hitem, ih hrest]

/-- What each step of a fold keeps is kept by all of them. -/
theorem foldlM_keeps {P : β → Prop} {step : β → α → Except Fault β}
    (hstep : ∀ b a b', P b → step b a = .ok b' → P b') {items : List α} {b b' : β} (hb : P b)
    (h : items.foldlM step b = .ok b') : P b' := by
  induction items generalizing b with
  | nil => exact Except.ok.inj h ▸ hb
  | cons item items ih =>
    rw [List.foldlM_cons] at h
    obtain ⟨next, hnext, hrest⟩ := bind_eq_ok_iff.1 h
    exact ih (hstep b item next hb hnext) hrest

/-! ## A single fault -/

/-- What was given, if something was. -/
def given [Inhabited α] : Except Fault α → α
  | .ok a => a
  | .error _ => default

theorem eq_ok_given [Inhabited α] {result : Except Fault α} (h : Returns result) :
    result = .ok (given result) := by
  obtain ⟨a, rfl⟩ := h
  rfl

/-- The items of a list are gone through one by one, each as if it were alone, if nothing fails. -/
theorem mapM_eq_ok_map [Inhabited β] {f : α → Except Fault β} {items : List α}
    (h : ∀ item ∈ items, Returns (f item)) :
    items.mapM f = .ok (items.map fun item => given (f item)) := by
  induction items with
  | nil => rfl
  | cons item items ih =>
    obtain ⟨hitem, hitems⟩ := List.forall_mem_cons.1 h
    exact mapM_cons_eq_ok_iff.2 ⟨_, _, eq_ok_given hitem, ih hitems, rfl⟩

/-- Where only one thing can go wrong, it does not matter which item it goes wrong with. -/
theorem mapM_eq_error {f : α → Except Fault β} {items : List α} {fault : Fault}
    (hfault : ∀ item ∈ items, ∀ other, f item = .error other → other = fault)
    (h : ¬ ∀ item ∈ items, Returns (f item)) : items.mapM f = .error fault := by
  induction items with
  | nil => exact absurd (fun _ hitem => nomatch hitem) h
  | cons item items ih =>
    obtain ⟨hitem, hitems⟩ := List.forall_mem_cons.1 hfault
    rw [List.mapM_cons]
    cases hfirst : f item with
    | error other =>
      rw [hitem other hfirst]
      rfl
    | ok b =>
      -- the fault comes from a later item
      have hrest : ¬ ∀ item ∈ items, Returns (f item) := fun hrest =>
        h (List.forall_mem_cons.2 ⟨⟨b, hfirst⟩, hrest⟩)
      rw [ok_bind, ih hitems hrest]
      rfl

end CodeReview.Result
