/-
The matches of a text and their number. Matches come from left to right, none overlapping another
(`pairwise_all`), and wherever the pattern leads on there is one (`exists_mem_all`). Where the pattern leads
no further than it stands the count goes on at the next character (`countFrom_of_stays`), and where it leads
on there is one match and the count goes on behind it (`countFrom_of_moves`). The fuel of the search does
not matter once it exceeds what is left of the text (`allFrom_eq_of_length_lt`), so these steps and the end
of the text settle every count. A text with its matches replaced is made in the same steps
(`replaceFrom_of_nil`, `replaceFrom_of_head?`).
-/
import CodeReview.Proofs.Pattern.Finding

namespace CodeReview.Pattern

variable {p : Pattern} {length position fuel : ℕ} {before rest : List Char} {x : Char} {c stop : Cursor}
  {captures : List (ℕ × List Char)} {found : Found}

/-! ## Matches from left to right -/

theorem searchFrom_of_nil (h : p.ends length ⟨before, x :: rest, position, []⟩ = []) :
    p.searchFrom length before position (x :: rest) =
      p.searchFrom length (x :: before) (position + 1) rest := by
  have hnone := matchAt?_eq_none_iff.2 h
  rw [searchFrom.eq_2, hnone]

theorem searchFrom_of_head? (h : (p.ends length ⟨before, rest, position, []⟩).head? = some stop) :
    p.searchFrom length before position rest = some ⟨⟨before, rest, position, []⟩, stop⟩ := by
  have hmatch : p.matchAt? length ⟨before, rest, position, []⟩ =
      some ⟨⟨before, rest, position, []⟩, stop⟩ := matchAt?_eq_some_iff.2 ⟨rfl, h⟩
  cases rest with
  | nil => exact hmatch
  | cons x rest => rw [searchFrom.eq_2, hmatch]

/-- A search forgets what is remembered where it begins. -/
theorem allFrom_captures (captures captures' : List (ℕ × List Char)) :
    p.allFrom length fuel ⟨before, rest, position, captures⟩ =
      p.allFrom length fuel ⟨before, rest, position, captures'⟩ := by
  cases fuel with
  | zero => rfl
  | succ fuel => rfl

/-- Where the pattern leads nowhere the search goes on at the next character. -/
theorem allFrom_of_nil (captures' : List (ℕ × List Char))
    (h : p.ends length ⟨before, x :: rest, position, []⟩ = []) :
    p.allFrom length fuel ⟨before, x :: rest, position, captures⟩ =
      p.allFrom length fuel ⟨x :: before, rest, position + 1, captures'⟩ := by
  cases fuel with
  | zero => rfl
  | succ fuel =>
    unfold allFrom
    dsimp only
    rw [searchFrom_of_nil h]

theorem allFrom_nil_of_nil (h : p.ends length ⟨before, [], position, []⟩ = []) :
    p.allFrom length fuel ⟨before, [], position, captures⟩ = [] := by
  cases fuel with
  | zero => rfl
  | succ fuel =>
    have hsearch : p.searchFrom length before position [] = none := matchAt?_eq_none_iff.2 h
    unfold allFrom
    dsimp only
    rw [hsearch]

/-- Where the pattern leads on there is a match, and the search goes on behind it. -/
theorem allFrom_of_head? (h : (p.ends length ⟨before, rest, position, []⟩).head? = some stop)
    (hmoves : stop.position ≠ position) :
    p.allFrom length (fuel + 1) ⟨before, rest, position, captures⟩ =
      ⟨⟨before, rest, position, []⟩, stop⟩ :: p.allFrom length fuel stop := by
  rw [allFrom]
  dsimp only
  rw [searchFrom_of_head? h]
  exact if_neg hmoves

/-- A pattern leads no further than it stands, or on from there. -/
theorem stays_or_moves (p : Pattern) (length : ℕ) (c : Cursor) :
    (∀ stop ∈ (p.ends length c).head?, stop.position = c.position) ∨
      ∃ stop, (p.ends length c).head? = some stop ∧ stop.position ≠ c.position := by
  cases (p.ends length c).head? with
  | none => exact .inl nofun
  | some stop =>
    by_cases hstays : stop.position = c.position
    · exact .inl fun after hafter => Option.some.inj hafter ▸ hstays
    · exact .inr ⟨stop, rfl, hstays⟩

/-- A place that is reached without moving differs in what is remembered only. -/
theorem eq_of_reaches_of_position (h : c.Reaches stop) (hstays : stop.position = c.position) :
    stop = { c with captures := stop.captures } := by
  obtain ⟨part, hrest, hbefore, hposition⟩ := h
  have hpart : part = [] := by
    rw [← List.length_eq_zero_iff]
    omega
  subst hpart
  cases stop
  cases c
  simp_all

/-- A match of nothing is passed over. -/
theorem allFrom_of_still (h : (p.ends length ⟨before, x :: rest, position, []⟩).head? = some stop)
    (hstays : stop.position = position) :
    p.allFrom length (fuel + 1) ⟨before, x :: rest, position, captures⟩ =
      p.allFrom length fuel ⟨x :: before, rest, position + 1, []⟩ := by
  have hstop := eq_of_reaches_of_position (reaches_of_mem_ends (List.mem_of_head? h)) hstays
  rw [allFrom]
  dsimp only
  rw [searchFrom_of_head? h]
  dsimp only
  rw [if_pos hstays, hstop]
  exact allFrom_captures _ _

theorem allFrom_nil_of_still (h : (p.ends length ⟨before, [], position, []⟩).head? = some stop) :
    p.allFrom length fuel ⟨before, [], position, captures⟩ = [] := by
  obtain ⟨part, hrest, -, hposition⟩ := reaches_of_mem_ends (List.mem_of_head? h)
  obtain ⟨rfl, hstop⟩ := List.append_eq_nil_iff.1 hrest.symm
  cases fuel with
  | zero => rfl
  | succ fuel =>
    rw [allFrom]
    dsimp only
    rw [searchFrom_of_head? h]
    dsimp only
    rw [if_pos (show stop.position = position from hposition), hstop]

/-- Nothing is left to be found at the end of a text. -/
theorem allFrom_nil : p.allFrom length fuel ⟨before, [], position, captures⟩ = [] := by
  cases hhead : (p.ends length ⟨before, [], position, []⟩).head? with
  | none => exact allFrom_nil_of_nil (List.head?_eq_none_iff.1 hhead)
  | some stop => exact allFrom_nil_of_still hhead

/-- Any fuel will do that exceeds what is left of the text. -/
theorem allFrom_eq_of_length_lt {fuel' : ℕ} (h : rest.length < fuel) (h' : rest.length < fuel') :
    p.allFrom length fuel ⟨before, rest, position, captures⟩ =
      p.allFrom length fuel' ⟨before, rest, position, captures⟩ := by
  -- a match takes several characters, so the induction is on the number of those that are left
  induction hlength : rest.length using Nat.strong_induction_on
    generalizing before rest position captures fuel fuel' with
  | _ n ih =>
  cases rest with
  | nil => rw [allFrom_nil, allFrom_nil]
  | cons x rest =>
    rw [List.length_cons] at h h' hlength
    cases hhead : (p.ends length ⟨before, x :: rest, position, []⟩).head? with
    | none =>
      have hnil := List.head?_eq_none_iff.1 hhead
      rw [allFrom_of_nil [] hnil, allFrom_of_nil [] hnil]
      exact ih rest.length (by omega) (by omega) (by omega) rfl
    | some stop =>
      obtain ⟨fuel, rfl⟩ := Nat.exists_eq_succ_of_ne_zero (Nat.ne_zero_of_lt h)
      obtain ⟨fuel', rfl⟩ := Nat.exists_eq_succ_of_ne_zero (Nat.ne_zero_of_lt h')
      by_cases hstays : stop.position = position
      · rw [allFrom_of_still hhead hstays, allFrom_of_still hhead hstays]
        exact ih rest.length (by omega) (by omega) (by omega) rfl
      · rw [allFrom_of_head? hhead hstays, allFrom_of_head? hhead hstays]
        obtain ⟨part, hrest, -, hposition⟩ := reaches_of_mem_ends (List.mem_of_head? hhead)
        have hfewer : rest.length + 1 = part.length + stop.rest.length := by
          simpa using congrArg List.length hrest
        have hpart : stop.position = position + part.length := hposition
        exact congrArg (List.cons _) (ih stop.rest.length (by omega) (by omega) (by omega) rfl)

/-- Where the pattern leads no further than it stands, the search goes on at the next character. -/
theorem allFrom_of_stays (hfuel : rest.length < fuel)
    (h : ∀ stop ∈ (p.ends length ⟨before, x :: rest, position, []⟩).head?, stop.position = position) :
    p.allFrom length (fuel + 1) ⟨before, x :: rest, position, captures⟩ =
      p.allFrom length fuel ⟨x :: before, rest, position + 1, []⟩ := by
  cases hhead : (p.ends length ⟨before, x :: rest, position, []⟩).head? with
  | none =>
    rw [allFrom_of_nil [] (List.head?_eq_none_iff.1 hhead)]
    exact allFrom_eq_of_length_lt (Nat.lt_succ_of_lt hfuel) hfuel
  | some stop => exact allFrom_of_still hhead (h stop hhead)

/-- Matches begin no further left than the search for them. -/
theorem position_le_of_mem_allFrom (h : found ∈ p.allFrom length fuel c) :
    c.position ≤ found.start.position ∧ found.start.position ≤ found.stop.position := by
  obtain ⟨part, left, -, hstart, hstop⟩ := mem_allFrom h
  obtain ⟨moved, -, -, hposition⟩ := reaches_of_mem_ends (List.mem_of_head? hstop)
  rw [hposition, hstart]
  exact ⟨Nat.le_add_right _ _, Nat.le_add_right _ _⟩

/-- Matches come from left to right, and none begins before the one before it ends. -/
theorem pairwise_allFrom (p : Pattern) (length fuel : ℕ) (c : Cursor) :
    (p.allFrom length fuel c).Pairwise fun found next => found.stop.position ≤ next.start.position := by
  induction fuel generalizing c with
  | zero => exact .nil
  | succ fuel ih =>
    rw [allFrom]
    split
    · exact .nil
    · split
      · split
        · exact .nil
        · exact ih _
      · exact .cons (fun next hnext => (position_le_of_mem_allFrom hnext).1) (ih _)

/-- Where the pattern leads on there is a match, which begins there or further left and ends further
right. -/
theorem exists_mem_allFrom {part left : List Char} (hfuel : rest.length < fuel) (hrest : rest = part ++ left)
    (hstop : (p.ends length (.at before position part left)).head? = some stop)
    (hmoves : stop.position ≠ position + part.length) :
    ∃ found ∈ p.allFrom length fuel ⟨before, rest, position, captures⟩,
      found.start.position ≤ position + part.length ∧ position + part.length < found.stop.position := by
  -- a match takes several characters, so the induction is on the number of those that are left
  induction hlength : rest.length using Nat.strong_induction_on
    generalizing before rest position captures fuel part with
  | _ n ih =>
  cases rest with
  | nil =>
    obtain ⟨rfl, rfl⟩ := List.append_eq_nil_iff.1 hrest.symm
    obtain ⟨moved, hmoved, -, hposition⟩ := reaches_of_mem_ends (List.mem_of_head? hstop)
    obtain ⟨rfl, -⟩ := List.append_eq_nil_iff.1 hmoved.symm
    exact absurd hposition hmoves
  | cons x rest =>
    rw [List.length_cons] at hfuel hlength
    obtain ⟨fuel, rfl⟩ := Nat.exists_eq_succ_of_ne_zero (Nat.ne_zero_of_lt hfuel)
    rcases stays_or_moves p length ⟨before, x :: rest, position, []⟩ with hstays | ⟨first, hhead, hfirst⟩
    · -- the place lies behind this character, where the pattern leads on
      rw [allFrom_of_stays (by omega) hstays]
      cases part with
      | nil =>
        obtain rfl : x :: rest = left := hrest
        exact absurd (hstays stop hstop) hmoves
      | cons y part =>
        obtain ⟨rfl, htail⟩ := List.cons.inj hrest
        rw [← at_cons] at hstop
        rw [List.length_cons, Nat.add_comm part.length, ← Nat.add_assoc] at hmoves ⊢
        exact ih rest.length (by omega) (by omega) htail hstop hmoves rfl
    · rw [allFrom_of_head? hhead hfirst]
      by_cases hcovers : position + part.length < first.position
      · exact ⟨_, List.mem_cons_self, Nat.le_add_right _ _, hcovers⟩
      · -- the place lies behind the match
        obtain ⟨moved, hmoved, hbefore, hposition⟩ := reaches_of_mem_ends (List.mem_of_head? hhead)
        dsimp only at hmoved hbefore hposition hfirst
        have hfewer : rest.length + 1 = moved.length + first.rest.length := by
          simpa using congrArg List.length hmoved
        have hfuel' : first.rest.length < fuel := by omega
        obtain ⟨between, rfl⟩ : moved <+: part :=
          List.prefix_of_prefix_length_le ⟨_, hmoved.symm⟩ ⟨_, hrest.symm⟩ (by omega)
        rw [hmoved, List.append_assoc] at hrest
        rw [at_append, ← hbefore, ← hposition] at hstop
        rw [List.length_append, ← Nat.add_assoc, ← hposition] at hmoves ⊢
        obtain ⟨found, hfound, hcover⟩ :=
          ih first.rest.length (by omega) hfuel' (List.append_cancel_left hrest) hstop hmoves rfl
        exact ⟨found, List.mem_cons_of_mem _ hfound, hcover⟩

variable {text : List Char}

theorem pairwise_all (p : Pattern) (text : List Char) :
    (p.all text).Pairwise fun found next => found.stop.position ≤ next.start.position :=
  pairwise_allFrom ..

theorem exists_mem_all {part left : List Char} (hsplit : text = part ++ left)
    (hstop : (p.ends text.length (.at [] 0 part left)).head? = some stop)
    (hmoves : stop.position ≠ part.length) :
    ∃ found ∈ p.all text, found.start.position ≤ part.length ∧ part.length < found.stop.position := by
  have hfound : ∃ found ∈ p.all text,
      found.start.position ≤ 0 + part.length ∧ 0 + part.length < found.stop.position :=
    exists_mem_allFrom (Nat.lt_succ_self _) hsplit hstop (by rwa [Nat.zero_add])
  rwa [Nat.zero_add] at hfound

/-! ## Counting -/

/-- How many matches there are from a place on. -/
def countFrom (p : Pattern) (length : ℕ) (before : List Char) (position : ℕ) (rest : List Char) : ℕ :=
  (p.allFrom length (rest.length + 1) ⟨before, rest, position, []⟩).length

theorem length_all (p : Pattern) (text : List Char) :
    (p.all text).length = p.countFrom text.length [] 0 text := rfl

/-- No more matches are looked for than the fuel allows. -/
theorem length_allFrom_le (p : Pattern) (length fuel : ℕ) (c : Cursor) :
    (p.allFrom length fuel c).length ≤ fuel := by
  induction fuel generalizing c with
  | zero => exact Nat.le_refl 0
  | succ fuel ih =>
    rw [allFrom]
    split
    · exact Nat.zero_le _
    · split
      · split
        · exact Nat.zero_le _
        · exact (ih _).trans (Nat.le_succ fuel)
      · exact Nat.succ_le_succ (ih _)

theorem length_all_le (p : Pattern) (text : List Char) : (p.all text).length ≤ text.length + 1 :=
  length_allFrom_le ..

@[simp] theorem countFrom_nil : p.countFrom length before position [] = 0 := by
  unfold countFrom
  rw [allFrom_nil, List.length_nil]

/-- Where the pattern leads no further than it stands, no match begins. -/
theorem countFrom_of_stays
    (h : ∀ stop ∈ (p.ends length ⟨before, x :: rest, position, []⟩).head?, stop.position = position) :
    p.countFrom length before position (x :: rest) =
      p.countFrom length (x :: before) (position + 1) rest := by
  unfold countFrom
  rw [List.length_cons, allFrom_of_stays (Nat.lt_succ_self _) h]

theorem countFrom_of_nil (h : p.ends length ⟨before, x :: rest, position, []⟩ = []) :
    p.countFrom length before position (x :: rest) =
      p.countFrom length (x :: before) (position + 1) rest := by
  refine countFrom_of_stays fun stop hstop => ?_
  rw [h] at hstop
  cases hstop

/-- Where the pattern leads on, a match begins. -/
theorem countFrom_of_moves (h : (p.ends length ⟨before, rest, position, []⟩).head? = some stop)
    (hmoves : stop.position ≠ position) :
    p.countFrom length before position rest =
      p.countFrom length stop.before stop.position stop.rest + 1 := by
  obtain ⟨part, hrest, -, hposition⟩ := reaches_of_mem_ends (List.mem_of_head? h)
  have hpart : stop.position = position + part.length := hposition
  have hfewer : rest.length = part.length + stop.rest.length := by
    simpa using congrArg List.length hrest
  have hfuel : p.allFrom length rest.length stop = p.allFrom length (stop.rest.length + 1) stop :=
    allFrom_eq_of_length_lt (by omega) (Nat.lt_succ_self _)
  unfold countFrom
  rw [allFrom_of_head? h hmoves, List.length_cons, hfuel]
  exact congrArg (List.length · + 1) (allFrom_captures _ _)

/-- A pattern that leads to one place leads there first. -/
theorem head?_of_forall_eq {places : List Cursor} (hmem : stop ∈ places)
    (h : ∀ after ∈ places, after = stop) : places.head? = some stop := by
  cases places with
  | nil => cases hmem
  | cons first more => rw [List.head?_cons, h first List.mem_cons_self]

/-! ## Matches replaced -/

section Replacing

variable {change : Found → List Char}

/-- The rest of a text with the matches in it replaced. -/
def replaceFrom (p : Pattern) (change : Found → List Char) (length fuel : ℕ) (c : Cursor) :
    List Char :=
  replaceMatches change c.position c.rest (p.allFrom length fuel c)

theorem replaceAll_eq_replaceFrom (text : List Char) :
    p.replaceAll change text = p.replaceFrom change text.length (text.length + 1) (.start text) := rfl

theorem replaceMatches_cons {x : Char} {matches' : List Found}
    (h : ∀ found ∈ matches', position + 1 ≤ found.start.position ∧
      found.start.position ≤ found.stop.position) :
    replaceMatches change position (x :: rest) matches' =
      x :: replaceMatches change (position + 1) rest matches' := by
  cases matches' with
  | nil => rfl
  | cons found more =>
    obtain ⟨hstart, hstop⟩ := h found List.mem_cons_self
    obtain ⟨k, hk⟩ := Nat.exists_eq_add_of_le hstart
    obtain ⟨m, hm⟩ := Nat.exists_eq_add_of_le (hstart.trans hstop)
    have hstart' : found.start.position - position = k + 1 := by omega
    have hstop' : found.stop.position - position = m + 1 := by omega
    have hstart'' : found.start.position - (position + 1) = k := by omega
    have hstop'' : found.stop.position - (position + 1) = m := by omega
    unfold replaceMatches
    rw [hstart', hstop', hstart'', hstop'', List.take_succ_cons, List.drop_succ_cons]
    rfl

/-- Where the pattern leads nowhere the next character stays. -/
theorem replaceFrom_of_nil {x : Char} (captures' : List (ℕ × List Char))
    (h : p.ends length ⟨before, x :: rest, position, []⟩ = []) :
    p.replaceFrom change length fuel ⟨before, x :: rest, position, captures⟩ =
      x :: p.replaceFrom change length fuel ⟨x :: before, rest, position + 1, captures'⟩ := by
  unfold replaceFrom
  rw [allFrom_of_nil captures' h]
  exact replaceMatches_cons fun found hfound => position_le_of_mem_allFrom hfound

theorem replaceFrom_nil :
    p.replaceFrom change length fuel ⟨before, [], position, captures⟩ = [] := by
  unfold replaceFrom
  rw [allFrom_nil]
  rfl

/-- Where the pattern leads on over some characters, these are replaced. -/
theorem replaceFrom_of_head? (h : (p.ends length ⟨before, rest, position, []⟩).head? = some stop)
    (hmoves : stop.position ≠ position) :
    p.replaceFrom change length (fuel + 1) ⟨before, rest, position, captures⟩ =
      change ⟨⟨before, rest, position, []⟩, stop⟩ ++ p.replaceFrom change length fuel stop := by
  obtain ⟨part, hrest, -, hposition⟩ := reaches_of_mem_ends (List.mem_of_head? h)
  dsimp only at hrest hposition
  unfold replaceFrom
  rw [allFrom_of_head? h hmoves, replaceMatches]
  dsimp only
  rw [Nat.sub_self, List.take_zero, List.nil_append, hposition, Nat.add_sub_cancel_left, hrest,
    List.drop_left]

end Replacing

end CodeReview.Pattern
