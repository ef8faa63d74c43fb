/-
Runs of characters. A text is cut where characters fail a test, and what is left between the cuts are
the longest runs of characters that pass it. `runs_cons` and `runs_cons_of_not` are the equations by
which they are found from left to right.
-/
import CodeReview.Text.Lines
import Mathlib.Data.List.TakeWhile
import Mathlib.Tactic

namespace CodeReview.Text

variable {test : Char → Bool} {sign x : Char} {rest : List Char}

/-! ## Longest runs -/

/-- The longest runs of characters that pass the test, none of them empty. -/
def runs (test : Char → Bool) (text : List Char) : List (List Char) :=
  (text.splitOnP (!test ·)).filter (!·.isEmpty)

@[simp] theorem runs_nil : runs test [] = [] := by
  unfold runs
  rw [List.splitOnP_nil]
  rfl

theorem runs_cons_of_not (test : Char → Bool) (h : test x = false) : runs test (x :: rest) = runs test rest := by
  unfold runs
  rw [List.splitOnP_cons_eq_if_modifyHead, if_pos (by rw [h]; rfl)]
  rfl

/-- A run goes on up to the first character that fails the test. -/
theorem runs_cons (test : Char → Bool) (h : test x = true) : runs test (x :: rest) =
    (x :: rest.takeWhile test) :: runs test (rest.dropWhile test) := by
  have hrun : ∀ y ∈ x :: rest.takeWhile test, (!test y) = false := by
    intro y hy
    rw [Bool.not_eq_false']
    rcases List.mem_cons.1 hy with rfl | hy
    · exact h
    · exact List.mem_takeWhile_imp hy
  have hsplit : x :: rest = (x :: rest.takeWhile test) ++ rest.dropWhile test := by
    rw [List.cons_append, List.takeWhile_append_dropWhile]
  have hfails := List.head?_dropWhile_not test rest
  rw [hsplit]
  cases hleft : rest.dropWhile test with
  | nil =>
    unfold runs
    rw [List.append_nil, List.splitOnP_eq_singleton hrun]
    rfl
  | cons y left =>
    rw [hleft] at hfails
    have hy : test y = false := hfails
    rw [runs_cons_of_not test hy]
    unfold runs
    rw [List.splitOnP_append_cons_of_forall_mem hrun y (by rw [hy]; rfl)]
    rfl

/-! ### Runs of texts put together -/

section Parts

variable {front part : List Char}

/-- Characters that fail the test part the runs before them from those behind. -/
theorem runs_append_cons (test : Char → Bool) (front : List Char) (h : test x = false) (rest : List Char) :
    runs test (front ++ x :: rest) = runs test front ++ runs test rest := by
  unfold runs
  rw [List.splitOnP_append_cons front rest (by rw [h]; rfl), List.filter_append]

theorem runs_append_of_forall_not (h : ∀ y ∈ part, test y = false) :
    runs test (part ++ rest) = runs test rest := by
  induction part with
  | nil => rfl
  | cons x part ih =>
    obtain ⟨hx, hpart⟩ := List.forall_mem_cons.1 h
    rw [List.cons_append, runs_cons_of_not test hx, ih hpart]

theorem runs_append_break (front : List Char) (hsome : part ≠ []) (h : ∀ y ∈ part, test y = false) :
    runs test (front ++ (part ++ rest)) = runs test front ++ runs test rest := by
  obtain ⟨x, part, rfl⟩ := List.exists_cons_of_ne_nil hsome
  obtain ⟨hx, hpart⟩ := List.forall_mem_cons.1 h
  rw [List.cons_append, runs_append_cons test front hx, runs_append_of_forall_not hpart]

/-- Where a text ends in a character that fails the test its runs end, too. -/
theorem runs_append_of_getLast? (h : ∀ y ∈ front.getLast?, test y = false) (rest : List Char) :
    runs test (front ++ rest) = runs test front ++ runs test rest := by
  rcases List.eq_nil_or_concat front with rfl | ⟨init, x, rfl⟩
  · rw [runs_nil]
    rfl
  · have hx : test x = false := h x (by simp)
    rw [List.concat_eq_append, List.append_assoc, List.singleton_append, runs_append_cons test init hx,
      runs_append_cons test init hx, runs_nil, List.append_nil]

theorem runs_append_of_head? (front : List Char) (h : ∀ y ∈ rest.head?, test y = false) :
    runs test (front ++ rest) = runs test front ++ runs test rest := by
  cases rest with
  | nil => simp
  | cons x rest =>
    have hx : test x = false := h x rfl
    rw [runs_append_cons test front hx, runs_cons_of_not test hx]

theorem runs_eq_singleton (hsome : part ≠ []) (h : ∀ y ∈ part, test y = true) : runs test part = [part] := by
  have hfails : ∀ y ∈ part, (!test y) = false := fun y hy => by rw [h y hy]; rfl
  unfold runs
  rw [List.splitOnP_eq_singleton hfails, List.filter_cons_of_pos (by simpa using hsome)]
  rfl

end Parts

/-! ### Where a run stands -/

/-- The characters up to the first that fails a test, and what is left, are told by where they meet. -/
theorem takeWhile_dropWhile_of_boundary {part left : List Char}
    (hpart : ∀ x ∈ part, test x = true) (hleft : ∀ x ∈ left.head?, test x = false) :
    (part ++ left).takeWhile test = part ∧ (part ++ left).dropWhile test = left := by
  rw [List.takeWhile_append_of_pos hpart, List.dropWhile_append_of_pos hpart]
  cases left with
  | nil => simp
  | cons x left =>
    have hx : ¬test x = true := Bool.eq_false_iff.1 (hleft x rfl)
    rw [List.takeWhile_cons_of_neg hx, List.dropWhile_cons_of_neg hx]
    simp

/-- The characters between two parts of a text are a longest run of those that pass the test. -/
structure IsRun (test : Char → Bool) (before run rest : List Char) : Prop where
  ne_nil : run ≠ []
  chars : ∀ c ∈ run, test c = true
  left : ∀ c ∈ before.getLast?, test c = false
  right : ∀ c ∈ rest.head?, test c = false

namespace IsRun

variable {before run before' run' rest' between : List Char}

theorem runs_eq (h : IsRun test before run rest) :
    runs test (before ++ run ++ rest) = runs test before ++ run :: runs test rest := by
  rw [List.append_assoc, runs_append_of_getLast? h.left, runs_append_of_head? run h.right,
    runs_eq_singleton h.ne_nil h.chars]
  rfl

/-- A run that begins no further left than another is the same run, or begins behind the end of it. -/
theorem eq_or_behind (h : IsRun test before run rest) (h' : IsRun test (before ++ between) run' rest')
    (heq : run ++ rest = between ++ (run' ++ rest')) : (between = [] ∧ run' = run ∧ rest' = rest) ∨
      ∃ gap, gap ≠ [] ∧ between = run ++ gap ∧ rest = gap ++ (run' ++ rest') := by
  rcases List.eq_nil_or_concat between with rfl | ⟨init, x, rfl⟩
  · rw [List.nil_append] at heq
    obtain ⟨htake, hdrop⟩ := takeWhile_dropWhile_of_boundary h.chars h.right
    obtain ⟨htake', hdrop'⟩ := takeWhile_dropWhile_of_boundary h'.chars h'.right
    rw [heq] at htake hdrop
    exact .inl ⟨rfl, htake'.symm.trans htake, hdrop'.symm.trans hdrop⟩
  · -- the character before the run further right is none of the run further left
    have hx : test x = false := h'.left x (by simp)
    rcases List.append_eq_append_iff.1 heq with ⟨gap, hgap, hrest⟩ | ⟨gap, hrun, -⟩
    · refine .inr ⟨gap, ?_, hgap, hrest⟩
      rintro rfl
      have hmem : x ∈ run := by
        rw [List.append_nil] at hgap
        rw [← hgap]
        simp
      exact Bool.false_ne_true (hx.symm.trans (h.chars x hmem))
    · have hmem : x ∈ run := by
        rw [hrun]
        simp
      exact absurd (h.chars x hmem) (Bool.eq_false_iff.1 hx)

/-- Two runs in one text are the same, or characters stand between them. -/
theorem eq_or_apart (h : IsRun test before run rest) (h' : IsRun test before' run' rest')
    (heq : before ++ run ++ rest = before' ++ run' ++ rest') : (before' = before ∧ run' = run ∧ rest' = rest) ∨
      (∃ gap ≠ [], before' = before ++ run ++ gap ∧ rest = gap ++ (run' ++ rest')) ∨
      ∃ gap ≠ [], before = before' ++ run' ++ gap ∧ rest' = gap ++ (run ++ rest) := by
  rw [List.append_assoc, List.append_assoc] at heq
  rcases List.append_eq_append_iff.1 heq with ⟨between, rfl, hrun⟩ | ⟨between, rfl, hrun⟩
  · rcases h.eq_or_behind h' hrun with ⟨rfl, hsame⟩ | ⟨gap, hgap, rfl, hrest⟩
    · exact .inl ⟨List.append_nil _, hsame⟩
    · exact .inr (.inl ⟨gap, hgap, (List.append_assoc ..).symm, hrest⟩)
  · rcases h'.eq_or_behind h hrun with ⟨rfl, hrun, hrest⟩ | ⟨gap, hgap, rfl, hrest⟩
    · exact .inl ⟨(List.append_nil _).symm, hrun.symm, hrest.symm⟩
    · exact .inr (.inr ⟨gap, hgap, (List.append_assoc ..).symm, hrest⟩)

end IsRun

/-! ## Pairs of one sign -/

/-- How many pairs of a sign there are, none overlapping another: half the length of each run of it. -/
def pairs (sign : Char) (text : List Char) : ℕ := ((runs (· == sign) text).map (·.length / 2)).sum

@[simp] theorem pairs_nil : pairs sign [] = 0 := by
  unfold pairs
  simp

theorem pairs_cons_of_ne (h : x ≠ sign) : pairs sign (x :: rest) = pairs sign rest := by
  have hx : (x == sign) = false := beq_eq_false_iff_ne.2 h
  unfold pairs
  rw [runs_cons_of_not (· == sign) hx]

theorem pairs_cons : pairs sign (sign :: rest) = ((rest.takeWhile (· == sign)).length + 1) / 2 +
    pairs sign (rest.dropWhile (· == sign)) := by
  have hsign : (sign == sign) = true := BEq.rfl
  unfold pairs
  rw [runs_cons (· == sign) hsign, List.map_cons, List.sum_cons, List.length_cons]

/-- The run at the beginning of a text, if there is one, counts for itself. -/
theorem pairs_eq (rest : List Char) : pairs sign rest = (rest.takeWhile (· == sign)).length / 2 +
    pairs sign (rest.dropWhile (· == sign)) := by
  cases rest with
  | nil => simp
  | cons x rest =>
    rw [List.takeWhile_cons, List.dropWhile_cons]
    by_cases hx : x = sign
    · subst hx
      rw [if_pos BEq.rfl, if_pos BEq.rfl, pairs_cons, List.length_cons]
    · have hfails : ¬(x == sign) = true := by simpa using hx
      rw [if_neg hfails, if_neg hfails]
      simp

theorem pairs_cons_cons : pairs sign (sign :: sign :: rest) = pairs sign rest + 1 := by
  rw [pairs_cons, List.takeWhile_cons, List.dropWhile_cons, if_pos BEq.rfl, if_pos BEq.rfl,
    List.length_cons, pairs_eq rest]
  omega

/-- A sign that stands alone is no pair. -/
theorem pairs_cons_of_head? (h : rest.head? ≠ some sign) :
    pairs sign (sign :: rest) = pairs sign rest := by
  rw [pairs_cons]
  cases rest with
  | nil => simp
  | cons x rest =>
    have hfails : ¬(x == sign) = true := by simpa using h
    rw [List.takeWhile_cons, List.dropWhile_cons, if_neg hfails, if_neg hfails]
    simp

/-! ## Characters and their neighbours -/

/-- A character and the ones beside it. -/
structure Neighbourhood where
  previous : Option Char
  char : Char
  next : Option Char
  deriving DecidableEq, Repr

/-- The characters of a text with their neighbours; `previous` is what stands before the text. -/
def neighbourhoods (previous : Option Char) : List Char → List Neighbourhood
  | [] => []
  | x :: rest => ⟨previous, x, rest.head?⟩ :: neighbourhoods (some x) rest

end CodeReview.Text
