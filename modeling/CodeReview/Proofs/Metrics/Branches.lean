/-
What counts as a branch. The words are found where they are whole runs of word characters
(`countFrom_branchWordPattern`), and the operators as pairs of one sign or as question marks alone
(`countFrom_branchOperatorPattern`), so the complexity of a text is told from its runs and from what
stands beside its question marks.
-/
import CodeReview.Metrics.Count
import CodeReview.Proofs.Pattern.Counting
import CodeReview.Proofs.Text.Runs
import Mathlib.Data.List.DropRight

namespace CodeReview.Measure

open Pattern

variable {length position : ℕ} {before rest : List Char} {c after : Cursor}

/-! ## Words -/

/-- The text is one of the words that branch. -/
def isBranchWord (word : List Char) : Bool := branchWords.any (·.toList == word)

theorem isBranchWord_iff {word : List Char} :
    isBranchWord word = true ↔ ∃ w ∈ branchWords, w.toList = word := by
  unfold isBranchWord
  simp

theorem areWords_branchWords : ∀ word ∈ branchWords,
    word.toList ≠ [] ∧ ∀ x ∈ word.toList, Text.isWordChar x = true := by
  have hall : branchWords.all (fun word => word.toList != [] && word.toList.all Text.isWordChar) = true := by
    decide +kernel
  simpa using hall

/-- The pattern of the words leads over one of them that no word character stands beside. -/
theorem mem_ends_branchWordPattern : after ∈ branchWordPattern.ends length c ↔
    (∀ y ∈ c.before.head?, Text.isWordChar y = false) ∧ ∃ word left, isBranchWord word = true ∧
      c.rest = word ++ left ∧ (∀ y ∈ left.head?, Text.isWordChar y = false) ∧
      after = c.past word left := by
  unfold branchWordPattern
  simp only [Pattern.sequence, mem_ends_seq, wordEdge, mem_ends_anchor, mem_ends_oneOf, List.mem_map,
    isBranchWord_iff]
  constructor
  · rintro ⟨_, ⟨hfirst, rfl⟩, _, ⟨_, ⟨word, hword, rfl⟩, hover⟩, hsecond, rfl⟩
    obtain ⟨left, hrest, rfl⟩ := mem_ends_literal.1 hover
    obtain ⟨hsome, hchars⟩ := areWords_branchWords word hword
    obtain ⟨x, more, hx⟩ := List.exists_cons_of_ne_nil hsome
    have hopens := hrest
    rw [hx, List.cons_append] at hopens
    have hbefore := (atWordEdge_iff hopens (hchars x (by simp [hx]))).1 hfirst
    have hleft := (atWordEdge_past_iff hsome hchars).1 hsecond
    exact ⟨hbefore, _, left, ⟨word, hword, rfl⟩, hrest, hleft, rfl⟩
  · rintro ⟨hbefore, _, left, ⟨word, hword, rfl⟩, hrest, hleft, rfl⟩
    obtain ⟨hsome, hchars⟩ := areWords_branchWords word hword
    obtain ⟨x, more, hx⟩ := List.exists_cons_of_ne_nil hsome
    have hopens := hrest
    rw [hx, List.cons_append] at hopens
    have hfirst := (atWordEdge_iff hopens (hchars x (by simp [hx]))).2 hbefore
    have hsecond : Anchor.holds (c.past word.toList left) (.wordBoundary false) = true :=
      (atWordEdge_past_iff hsome hchars).2 hleft
    exact ⟨c, ⟨hfirst, rfl⟩, _, ⟨_, ⟨word, hword, rfl⟩, mem_ends_literal.2 ⟨left, hrest, rfl⟩⟩, hsecond,
      rfl⟩

/-- The pattern leads to one place at most, behind a whole run of word characters. -/
theorem mem_ends_branchWordPattern_iff : after ∈ branchWordPattern.ends length c ↔
    c.before.head?.any Text.isWordChar = false ∧
      isBranchWord (c.rest.takeWhile Text.isWordChar) = true ∧
      after = c.past (c.rest.takeWhile Text.isWordChar) (c.rest.dropWhile Text.isWordChar) := by
  rw [mem_ends_branchWordPattern, Option.any_eq_false]
  refine and_congr_right fun _ => ?_
  constructor
  · rintro ⟨word, left, hword, hrest, hleft, rfl⟩
    obtain ⟨w, hw, rfl⟩ := isBranchWord_iff.1 hword
    obtain ⟨htake, hdrop⟩ := Text.takeWhile_dropWhile_of_boundary (areWords_branchWords w hw).2 hleft
    rw [hrest, htake, hdrop]
    exact ⟨hword, rfl⟩
  · rintro ⟨hword, rfl⟩
    refine ⟨_, _, hword, List.takeWhile_append_dropWhile.symm, fun y hy => ?_, rfl⟩
    have hfails := List.head?_dropWhile_not Text.isWordChar c.rest
    rw [Option.mem_def.1 hy] at hfails
    exact hfails

/-- What is left of a text from the end of the word on that the place stands in. -/
def outsideWord (before rest : List Char) : List Char :=
  if before.head?.any Text.isWordChar then rest.dropWhile Text.isWordChar else rest

theorem outsideWord_cons (x : Char) (before rest : List Char) : outsideWord (x :: before) rest =
    if Text.isWordChar x then rest.dropWhile Text.isWordChar else rest := rfl

theorem outsideWord_dropWhile (before rest : List Char) :
    outsideWord before (rest.dropWhile Text.isWordChar) = rest.dropWhile Text.isWordChar := by
  unfold outsideWord
  split
  · exact List.dropWhile_idempotent _ _
  · rfl

/-- From any place on there are as many matches as runs that are words that branch. -/
theorem countFrom_branchWordPattern : branchWordPattern.countFrom length before position rest =
    (Text.runs Text.isWordChar (outsideWord before rest)).countP isBranchWord := by
  -- a match takes a whole run, so the induction is on the number of characters that are left
  induction hlength : rest.length using Nat.strong_induction_on
    generalizing before rest position with
  | _ n ih =>
  cases rest with
  | nil => simp [outsideWord]
  | cons x rest =>
    rw [List.length_cons] at hlength
    -- where no match begins the count goes on at the next character
    have hnext (hno : ¬(before.head?.any Text.isWordChar = false ∧
        isBranchWord ((x :: rest).takeWhile Text.isWordChar) = true)) :
        branchWordPattern.countFrom length before position (x :: rest) =
          (Text.runs Text.isWordChar (outsideWord (x :: before) rest)).countP isBranchWord := by
      have hnil : branchWordPattern.ends length ⟨before, x :: rest, position, []⟩ = [] := by
        refine List.eq_nil_iff_forall_not_mem.2 fun after hafter => ?_
        obtain ⟨houtside, hword, -⟩ := mem_ends_branchWordPattern_iff.1 hafter
        exact hno ⟨houtside, hword⟩
      rw [countFrom_of_nil hnil, ih rest.length (by omega) rfl]
    rw [outsideWord_cons] at hnext
    by_cases hinside : before.head?.any Text.isWordChar = true
    · rw [hnext (by simp [hinside]), outsideWord, if_pos hinside, List.dropWhile_cons]
      split
      · rfl
      · next hx => rw [Text.runs_cons_of_not _ (Bool.eq_false_iff.2 hx)]
    · have houtside := Bool.eq_false_iff.2 hinside
      rw [outsideWord, if_neg hinside]
      by_cases hx : Text.isWordChar x = true
      · rw [Text.runs_cons _ hx, List.countP_cons]
        rw [List.takeWhile_cons_of_pos hx, if_pos hx] at hnext
        by_cases hword : isBranchWord (x :: rest.takeWhile Text.isWordChar) = true
        · have htake : (x :: rest).takeWhile Text.isWordChar = x :: rest.takeWhile Text.isWordChar :=
            List.takeWhile_cons_of_pos hx
          have hdrop : (x :: rest).dropWhile Text.isWordChar = rest.dropWhile Text.isWordChar :=
            List.dropWhile_cons_of_pos hx
          have hends (after : Cursor) :
              after ∈ branchWordPattern.ends length ⟨before, x :: rest, position, []⟩ ↔
                after = Cursor.past ⟨before, x :: rest, position, []⟩
                  (x :: rest.takeWhile Text.isWordChar) (rest.dropWhile Text.isWordChar) := by
            rw [mem_ends_branchWordPattern_iff, htake, hdrop]
            simp [houtside, hword]
          have hfewer : (rest.dropWhile Text.isWordChar).length ≤ rest.length :=
            (List.dropWhile_sublist _).length_le
          rw [countFrom_of_moves (head?_of_forall_eq ((hends _).2 rfl) fun after => (hends after).1)
            (by simp), Cursor.past_rest, ih _ (by omega) rfl, outsideWord_dropWhile, if_pos hword]
        · rw [hnext (by simp [hword]), if_neg hword, Nat.add_zero]
      · rw [List.takeWhile_cons_of_neg hx, if_neg hx] at hnext
        rw [hnext (by simp [isBranchWord, branchWords]), Text.runs_cons_of_not _ (Bool.eq_false_iff.2 hx)]

/-! ## Operators -/

/-- The signs that branch in pairs. -/
def pairedSigns : List Char := ['&', '|']

/-- The pairs of the signs that branch in pairs. -/
def branchPairs (text : List Char) : ℕ := Text.pairs '&' text + Text.pairs '|' text

/-- A question mark that neither stands beside another nor before a point. -/
def asks (place : Text.Neighbourhood) : Bool :=
  place.char == '?' && place.previous != some '?' && place.next != some '?' && place.next != some '.'

theorem asks_iff {previous next : Option Char} {x : Char} : asks ⟨previous, x, next⟩ = true ↔
    x = '?' ∧ previous ≠ some '?' ∧ next ≠ some '?' ∧ next ≠ some '.' := by
  unfold asks
  simp [and_assoc]

theorem not_asks_of_mem {previous next : Option Char} {x : Char} (h : x ∈ pairedSigns) :
    ¬asks ⟨previous, x, next⟩ = true := by
  rw [asks_iff]
  rintro ⟨rfl, -⟩
  exact absurd h (by decide)

/-- The pattern of the operators leads over a pair of a sign or over a question mark that asks. -/
theorem mem_ends_branchOperatorPattern : after ∈ branchOperatorPattern.ends length c ↔
    (∃ sign ∈ pairedSigns, ∃ left, c.rest = sign :: sign :: left ∧ after = c.past [sign, sign] left) ∨
      ∃ left, c.rest = '?' :: left ∧ asks ⟨c.before.head?, '?', left.head?⟩ = true ∧
        after = c.past ['?'] left := by
  have hquestion : after ∈ (Pattern.sequence [.behind true 1 (.char (.only '?')), .char (.only '?'),
      .ahead true (.char (.among ".?"))]).ends length c ↔
      ∃ left, c.rest = '?' :: left ∧ asks ⟨c.before.head?, '?', left.head?⟩ = true ∧
        after = c.past ['?'] left := by
    simp only [Pattern.sequence, mem_ends_seq, mem_ends_behind_not, mem_ends_only, mem_ends_ahead_not,
      Bool.eq_false_iff, ne_eq, holds_only, holds_among, asks_iff]
    constructor
    · rintro ⟨_, ⟨hbefore, rfl⟩, _, ⟨left, hrest, rfl⟩, hleft, rfl⟩
      refine ⟨left, hrest, ⟨trivial, ?_, ?_, ?_⟩, rfl⟩
      · exact fun h => hbefore '?' h rfl
      · exact fun h => hleft '?' h (by simp)
      · exact fun h => hleft '.' h (by simp)
    · rintro ⟨left, hrest, ⟨-, hbefore, hmark, hpoint⟩, rfl⟩
      refine ⟨c, ⟨?_, rfl⟩, _, ⟨left, hrest, rfl⟩, ?_, rfl⟩
      · rintro x hx rfl
        exact hbefore hx
      · intro x hx hmem
        rw [Cursor.past_rest] at hx
        rcases List.mem_pair.1 (show x ∈ ['.', '?'] from hmem) with rfl | rfl
        · exact hpoint hx
        · exact hmark hx
  unfold branchOperatorPattern pairedSigns
  simp only [oneOf, mem_ends_alt, mem_ends_literal, List.exists_mem_cons_iff, List.not_mem_nil, false_and,
    exists_false, or_false, or_assoc, hquestion]
  rfl

/-! ### Where a match begins -/

section Matches

variable {x : Char} {left : List Char}

theorem head?_ends_of_pair (hsign : x ∈ pairedSigns) (hrest : c.rest = x :: x :: left) :
    (branchOperatorPattern.ends length c).head? = some (c.past [x, x] left) := by
  have hpair : c.past [x, x] left ∈ branchOperatorPattern.ends length c :=
    mem_ends_branchOperatorPattern.2 (.inl ⟨x, hsign, left, hrest, rfl⟩)
  refine head?_of_forall_eq hpair fun after hafter => ?_
  rcases mem_ends_branchOperatorPattern.1 hafter with ⟨sign, -, left', hrest', rfl⟩ |
    ⟨left', hrest', -⟩
  · obtain ⟨rfl, hleft⟩ := List.cons.inj (hrest.symm.trans hrest')
    obtain ⟨-, rfl⟩ := List.cons.inj hleft
    rfl
  · obtain ⟨rfl, -⟩ := List.cons.inj (hrest.symm.trans hrest')
    exact absurd hsign (by decide)

theorem head?_ends_of_asks (hrest : c.rest = '?' :: left)
    (hasks : asks ⟨c.before.head?, '?', left.head?⟩ = true) :
    (branchOperatorPattern.ends length c).head? = some (c.past ['?'] left) := by
  have hmark : c.past ['?'] left ∈ branchOperatorPattern.ends length c :=
    mem_ends_branchOperatorPattern.2 (.inr ⟨left, hrest, hasks, rfl⟩)
  refine head?_of_forall_eq hmark fun after hafter => ?_
  rcases mem_ends_branchOperatorPattern.1 hafter with ⟨sign, hsign, left', hrest', -⟩ |
    ⟨left', hrest', -, rfl⟩
  · obtain ⟨rfl, -⟩ := List.cons.inj (hrest.symm.trans hrest')
    exact absurd hsign (by decide)
  · obtain ⟨-, rfl⟩ := List.cons.inj (hrest.symm.trans hrest')
    rfl

theorem ends_eq_nil_of_neither (hrest : c.rest = x :: left)
    (hpair : ¬(x ∈ pairedSigns ∧ left.head? = some x))
    (hasks : ¬asks ⟨c.before.head?, x, left.head?⟩ = true) :
    branchOperatorPattern.ends length c = [] := by
  refine List.eq_nil_iff_forall_not_mem.2 fun after hafter => ?_
  rcases mem_ends_branchOperatorPattern.1 hafter with ⟨sign, hsign, left', hrest', -⟩ |
    ⟨left', hrest', hmark, -⟩
  · obtain ⟨rfl, rfl⟩ := List.cons.inj (hrest.symm.trans hrest')
    exact hpair ⟨hsign, rfl⟩
  · obtain ⟨rfl, rfl⟩ := List.cons.inj (hrest.symm.trans hrest')
    exact hasks hmark

end Matches

/-! ### Counting pairs and question marks -/

theorem branchPairs_cons_cons {sign : Char} (hsign : sign ∈ pairedSigns) (rest : List Char) :
    branchPairs (sign :: sign :: rest) = branchPairs rest + 1 := by
  unfold branchPairs
  rcases List.mem_pair.1 hsign with rfl | rfl
  · rw [Text.pairs_cons_cons, Text.pairs_cons_of_ne (by decide), Text.pairs_cons_of_ne (by decide)]
    omega
  · rw [Text.pairs_cons_cons, Text.pairs_cons_of_ne (by decide), Text.pairs_cons_of_ne (by decide)]
    omega

theorem branchPairs_cons_of_head? {sign : Char} (hsign : sign ∈ pairedSigns)
    (h : rest.head? ≠ some sign) : branchPairs (sign :: rest) = branchPairs rest := by
  unfold branchPairs
  rcases List.mem_pair.1 hsign with rfl | rfl
  · rw [Text.pairs_cons_of_head? h, Text.pairs_cons_of_ne (by decide)]
  · rw [Text.pairs_cons_of_head? h, Text.pairs_cons_of_ne (by decide)]

theorem branchPairs_cons_of_notMem {x : Char} (h : x ∉ pairedSigns) (rest : List Char) :
    branchPairs (x :: rest) = branchPairs rest := by
  obtain ⟨hand, hor⟩ : x ≠ '&' ∧ x ≠ '|' := by simpa [pairedSigns] using h
  unfold branchPairs
  rw [Text.pairs_cons_of_ne hand, Text.pairs_cons_of_ne hor]

/-- From any place on there are as many matches as pairs of the signs and question marks that ask. -/
theorem countFrom_branchOperatorPattern : branchOperatorPattern.countFrom length before position rest =
    branchPairs rest + (Text.neighbourhoods before.head? rest).countP asks := by
  -- a match takes two characters or one, so the induction is on the number of those that are left
  induction hlength : rest.length using Nat.strong_induction_on
    generalizing before rest position with
  | _ n ih =>
  cases rest with
  | nil => simp [branchPairs, Text.neighbourhoods]
  | cons x rest =>
    rw [List.length_cons] at hlength
    rw [Text.neighbourhoods, List.countP_cons]
    by_cases hasks : asks ⟨before.head?, x, rest.head?⟩ = true
    · -- a question mark that asks is a match of its own
      obtain ⟨rfl, -⟩ := asks_iff.1 hasks
      rw [countFrom_of_moves (head?_ends_of_asks rfl hasks) (by simp), Cursor.past_rest,
        ih rest.length (by omega) rfl, branchPairs_cons_of_notMem (by decide), if_pos hasks]
      rfl
    · rw [if_neg hasks, Nat.add_zero]
      by_cases hpair : x ∈ pairedSigns ∧ rest.head? = some x
      · -- a pair is a match, and neither of its signs asks
        obtain ⟨hsign, hhead⟩ := hpair
        obtain ⟨left, rfl⟩ : ∃ left, rest = x :: left := List.head?_eq_some_iff.1 hhead
        rw [List.length_cons] at hlength
        rw [countFrom_of_moves (head?_ends_of_pair hsign rfl) (by simp), Cursor.past_rest,
          ih left.length (by omega) rfl, branchPairs_cons_cons hsign, Text.neighbourhoods,
          List.countP_cons, if_neg (not_asks_of_mem hsign)]
        show _ + (Text.neighbourhoods (some x) left).countP asks + 1 = _
        omega
      · have hsame : branchPairs (x :: rest) = branchPairs rest := by
          by_cases hsign : x ∈ pairedSigns
          · exact branchPairs_cons_of_head? hsign fun hhead => hpair ⟨hsign, hhead⟩
          · exact branchPairs_cons_of_notMem hsign rest
        rw [countFrom_of_nil (ends_eq_nil_of_neither rfl hpair hasks), ih rest.length (by omega) rfl,
          hsame]
        rfl

/-! ## The complexity -/

/-- The complexity is one more than the runs of word characters that are words that branch, half the length
of each run of `&` and of each run of `|`, and the question marks that ask. -/
theorem complexity_eq_runs (text : List Char) : complexity text =
    1 + (Text.runs Text.isWordChar text).countP isBranchWord +
      ((Text.runs (· == '&') text).map (·.length / 2)).sum +
      ((Text.runs (· == '|') text).map (·.length / 2)).sum +
      (Text.neighbourhoods none text).countP asks := by
  unfold complexity
  rw [length_all, length_all, countFrom_branchWordPattern, countFrom_branchOperatorPattern]
  show 1 + (Text.runs Text.isWordChar text).countP isBranchWord +
    (Text.pairs '&' text + Text.pairs '|' text + (Text.neighbourhoods none text).countP asks) = _
  unfold Text.pairs
  omega

-- a word, a pair and a question mark count, but not longer words, the third sign of a run or `??`
example : complexity "iffy ? a &&& b : if ?? do_not".toList = 4 := by cbv

end CodeReview.Measure
