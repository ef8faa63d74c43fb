/-
What is found in a text. Each way of putting patterns together leads to places that can be named
(`mem_ends_seq` and the lemmas after it), and a search finds the first place from which a pattern leads
anywhere (`search_isSome_iff`). A match splits its text into what stands before it, its own characters and
what is left (`Found.Splits`).
-/
import CodeReview.Proofs.Pattern.Ends
import CodeReview.Proofs.Text.CodePoint

namespace CodeReview.Pattern

/-! ## What patterns lead to -/

section Members

variable {length : ℕ} {p q : Pattern} {test : CharTest} {c after : Cursor}

theorem mem_ends_seq : after ∈ (Pattern.seq p q).ends length c ↔
    ∃ mid ∈ p.ends length c, after ∈ q.ends length mid := List.mem_flatMap

theorem mem_ends_alt : after ∈ (Pattern.alt p q).ends length c ↔
    after ∈ p.ends length c ∨ after ∈ q.ends length c := List.mem_append

theorem mem_ends_oneOf {ps : List Pattern} : after ∈ (oneOf ps).ends length c ↔
    ∃ p ∈ ps, after ∈ p.ends length c := by
  induction ps with
  | nil => exact iff_of_false nofun nofun
  | cons p ps ih =>
    cases ps with
    | nil => simp [oneOf]
    | cons q ps =>
      rw [oneOf.eq_3 p (q :: ps) (List.cons_ne_nil _ _), mem_ends_alt, ih]
      simp only [List.mem_cons, exists_eq_or_imp]

theorem mem_ends_char : after ∈ (Pattern.char test).ends length c ↔
    ∃ x rest, c.rest = x :: rest ∧ test.holds x = true ∧ after = c.past [x] rest := by
  unfold ends
  cases c.rest with
  | nil =>
    constructor
    · intro h
      cases h
    · rintro ⟨y, more, h, -⟩
      cases h
  | cons x rest =>
    dsimp only
    split
    · next hx =>
      rw [List.mem_singleton]
      constructor
      · exact fun h => ⟨x, rest, rfl, hx, h⟩
      · rintro ⟨y, more, h, -, hafter⟩
        obtain ⟨rfl, rfl⟩ := List.cons.inj h
        exact hafter
    · next hx =>
      constructor
      · intro h
        cases h
      · rintro ⟨y, more, h, htest, -⟩
        obtain ⟨rfl, rfl⟩ := List.cons.inj h
        exact absurd htest hx

theorem mem_ends_many : after ∈ (many test).ends length c ↔
    ∃ part rest, c.rest = part ++ rest ∧ (∀ x ∈ part, test.holds x = true) ∧
      after = c.past part rest := by
  show after ∈ endsChars test 0 none .greedy c ↔ _
  rw [mem_endsChars_greedy_iff]
  simp

theorem mem_ends_oneOrMore : after ∈ (oneOrMore test).ends length c ↔
    ∃ part rest, c.rest = part ++ rest ∧ (∀ x ∈ part, test.holds x = true) ∧ part ≠ [] ∧
      after = c.past part rest := by
  show after ∈ endsChars test 1 none .greedy c ↔ _
  rw [mem_endsChars_greedy_iff]
  simp [Nat.one_le_iff_ne_zero]

theorem mem_ends_optionalChar : after ∈ (optionalChar test).ends length c ↔
    ∃ part rest, c.rest = part ++ rest ∧ (part = [] ∨ ∃ x, part = [x] ∧ test.holds x = true) ∧
      after = c.past part rest := by
  have hpart (part : List Char) : (part = [] ∨ ∃ x, part = [x] ∧ test.holds x = true) ↔
      (∀ x ∈ part, test.holds x = true) ∧ part.length ≤ 1 := by
    cases part with
    | nil => simp
    | cons x more => cases more <;> simp
  show after ∈ endsChars test 0 (some 1) .greedy c ↔ _
  rw [mem_endsChars_greedy_iff]
  simp [hpart, and_assoc]

/-- A pattern that may be left out leads where it leads, or nowhere further. -/
theorem mem_ends_optional : after ∈ (optional p).ends length c ↔
    after ∈ p.ends length c ∨ after = c := by
  have hlast (mid : Cursor) :
      endsGreedy (p.ends length) 0 (some 1) (length + 2) 1 (some c.position) mid = [mid] := by
    rw [endsGreedy, if_neg (Nat.not_lt_zero 1), if_neg (by simp)]
  show after ∈ endsGreedy (p.ends length) 0 (some 1) (0 + length + 3) 0 none c ↔ _
  rw [Nat.zero_add, endsGreedy, if_neg (Nat.not_lt_zero 0), if_pos (by simp), Nat.zero_add]
  simp only [hlast, List.mem_append, List.mem_flatMap, List.mem_singleton, exists_eq_right']

theorem mem_ends_anchor {place : Anchor} : after ∈ (Pattern.anchor place).ends length c ↔
    Anchor.holds c place = true ∧ after = c := by
  unfold ends
  split
  · next h => rw [List.mem_singleton, and_iff_right h]
  · next h =>
    constructor
    · intro hmem
      cases hmem
    · rintro ⟨hholds, -⟩
      exact absurd hholds h

theorem holds_lastLineEnd : Anchor.holds c .lastLineEnd = true ↔ c.rest = [] ∨ c.rest = ['\n'] := by
  unfold Anchor.holds
  simp

theorem mem_ends_capture {index : ℕ} : after ∈ (Pattern.capture index p).ends length c ↔
    ∃ stop ∈ p.ends length c, after = stop.remember index (stop.position - c.position) := by
  rw [ends, List.mem_map]
  exact exists_congr fun stop => and_congr_right fun _ => eq_comm

theorem remember_past {index : ℕ} {part rest : List Char} :
    (c.past part rest).remember index ((c.past part rest).position - c.position) =
      ⟨part.reverse ++ c.before, rest, c.position + part.length, (index, part) :: c.captures⟩ := by
  unfold Cursor.remember
  rw [Cursor.past_position, Nat.add_sub_cancel_left, Cursor.past_before,
    List.take_left' (List.length_reverse ..), List.reverse_reverse]
  rfl

theorem ends_char_eq_nil_iff : (Pattern.char test).ends length c = [] ↔
    ∀ x ∈ c.rest.head?, test.holds x = false := by
  unfold ends
  cases c.rest with
  | nil => simp
  | cons x rest =>
    dsimp only
    rw [List.head?_cons]
    simp only [Option.mem_some_iff, forall_eq']
    split
    · next hx => simp [hx]
    · next hx => exact iff_of_true rfl (Bool.eq_false_iff.2 hx)

theorem mem_lookedAround_not {seen : Option Cursor} :
    after ∈ lookedAround true c seen ↔ seen = none ∧ after = c := by
  unfold lookedAround
  cases seen with
  | some found => exact iff_of_false nofun nofun
  | none => simp

/-- The next character does not pass the test. -/
theorem mem_ends_ahead_not : after ∈ (Pattern.ahead true (.char test)).ends length c ↔
    (∀ x ∈ c.rest.head?, test.holds x = false) ∧ after = c := by
  show after ∈ lookedAround true c _ ↔ _
  rw [mem_lookedAround_not, List.head?_eq_none_iff, ends_char_eq_nil_iff]

/-- The last character does not pass the test. -/
theorem mem_ends_behind_not : after ∈ (Pattern.behind true 1 (.char test)).ends length c ↔
    (∀ x ∈ c.before.head?, test.holds x = false) ∧ after = c := by
  show after ∈ lookedAround true c _ ↔ _
  rw [mem_lookedAround_not]
  refine and_congr_left fun _ => ?_
  unfold Cursor.backBy
  cases hbefore : c.before with
  | nil => exact iff_of_true rfl nofun
  | cons x before =>
    have hback : c.back.rest = x :: c.rest := by
      unfold Cursor.back
      rw [hbefore]
    rw [if_neg (by simp)]
    show (Pattern.ends length (.char test) c.back).head? = none ↔ _
    rw [List.head?_eq_none_iff, ends_char_eq_nil_iff, hback]
    rfl

/-! ### Edges of words -/

/-- Before a word character there is the edge of a word exactly if no word character stands on the other
side. -/
theorem atWordEdge_iff {c : Cursor} {x : Char} {rest : List Char} (hrest : c.rest = x :: rest)
    (hx : Text.isWordChar x = true) : Anchor.holds c (.wordBoundary false) = true ↔
      ∀ y ∈ c.before.head?, Text.isWordChar y = false := by
  have hword : (ClassName.word.holds false : Char → Bool) = Text.isWordChar := rfl
  unfold Anchor.holds
  dsimp only
  unfold Cursor.atWordEdge
  dsimp only
  rw [hrest, List.head?_cons, hword, Option.any_some, hx, bne_iff_ne, ne_eq, Bool.not_eq_true]
  cases c.before.head? <;> simp

/-- Behind some word characters there is the edge of a word exactly if no word character follows. -/
theorem atWordEdge_past_iff {part rest : List Char} (hsome : part ≠ [])
    (hpart : ∀ x ∈ part, Text.isWordChar x = true) :
    Anchor.holds (c.past part rest) (.wordBoundary false) = true ↔
      ∀ y ∈ rest.head?, Text.isWordChar y = false := by
  obtain ⟨init, x, rfl⟩ := List.eq_nil_or_concat part |>.resolve_left hsome
  have hword : ClassName.word.holds false x = true := hpart x (by simp)
  have hlast : (c.past (init.concat x) rest).before.head? = some x := by
    rw [Cursor.past_before, List.concat_eq_append, List.reverse_append]
    rfl
  unfold Anchor.holds
  dsimp only
  unfold Cursor.atWordEdge
  dsimp only
  rw [hlast, Cursor.past_rest, Option.any_some, hword, bne_iff_ne, ne_eq]
  cases rest.head? with
  | none => simp
  | some y => simp [ClassName.holds]

/-! ### Characters and texts -/

theorem holds_only {x y : Char} : (CharTest.only x).holds y = true ↔ y = x := by
  simp only [CharTest.only, CharTest.holds, SetItem.holds, Letters.agree, List.any_cons, List.any_nil,
    Bool.or_false, Bool.bne_false, beq_iff_eq]
  exact Text.codePoint_inj.trans eq_comm

theorem holds_among {text : String} {x : Char} :
    (CharTest.among text).holds x = true ↔ x ∈ text.toList := by
  simp only [CharTest.among, CharTest.holds, List.any_map, Bool.bne_false, List.any_eq_true,
    Function.comp_apply, SetItem.holds, Letters.agree, beq_iff_eq, Text.codePoint_inj]
  exact exists_eq_right

theorem holds_except {text : String} {x : Char} :
    (CharTest.except text).holds x = true ↔ x ∉ text.toList := by
  have hamong : (CharTest.except text).holds x = !(CharTest.among text).holds x := by
    simp only [CharTest.except, CharTest.among, CharTest.holds, Bool.bne_true, Bool.bne_false]
  rw [hamong, Bool.not_eq_true', Bool.eq_false_iff, ne_eq, holds_among]

theorem holds_inLine {x : Char} : CharTest.inLine.holds x = true ↔ x ≠ '\n' := by
  simp [CharTest.inLine, CharTest.holds]

theorem holds_blank {x : Char} : CharTest.blank.holds x = Text.isBlank x := by
  simp [CharTest.blank, CharTest.holds, SetItem.holds, ClassName.holds]

theorem holds_word {x : Char} : CharTest.word.holds x = Text.isWordChar x := by
  simp [CharTest.word, CharTest.holds, SetItem.holds, ClassName.holds]

theorem mem_ends_only {x : Char} : after ∈ (Pattern.char (.only x)).ends length c ↔
    ∃ rest, c.rest = x :: rest ∧ after = c.past [x] rest := by
  rw [mem_ends_char]
  constructor
  · rintro ⟨y, rest, hrest, hy, rfl⟩
    obtain rfl := holds_only.1 hy
    exact ⟨rest, hrest, rfl⟩
  · rintro ⟨rest, hrest, rfl⟩
    exact ⟨x, rest, hrest, holds_only.2 rfl, rfl⟩

theorem mem_ends_letters {text : List Char} :
    after ∈ (sequence (text.map fun x => .char (.only x))).ends length c ↔
      ∃ rest, c.rest = text ++ rest ∧ after = c.past text rest := by
  induction text generalizing c with
  | nil =>
    show after ∈ [c] ↔ _
    rw [List.mem_singleton]
    constructor
    · rintro rfl
      exact ⟨_, rfl, Cursor.past_nil.symm⟩
    · rintro ⟨rest, hrest, rfl⟩
      rw [List.nil_append] at hrest
      rw [← hrest, Cursor.past_nil]
  | cons x text ih =>
    have hcons : after ∈ (sequence ((x :: text).map fun x => .char (.only x))).ends length c ↔
        ∃ mid ∈ (Pattern.char (.only x)).ends length c,
          after ∈ (sequence (text.map fun x => .char (.only x))).ends length mid := by
      cases text with
      | nil =>
        show after ∈ (Pattern.char (.only x)).ends length c ↔
          ∃ mid ∈ (Pattern.char (.only x)).ends length c, after ∈ [mid]
        simp
      | cons y text => exact mem_ends_seq
    rw [hcons]
    constructor
    · rintro ⟨mid, hmid, hafter⟩
      obtain ⟨rest, hrest, rfl⟩ := mem_ends_only.1 hmid
      obtain ⟨left, hleft, rfl⟩ := ih.1 hafter
      rw [Cursor.past_rest] at hleft
      exact ⟨left, by rw [hrest, hleft, List.cons_append], Cursor.past_past _⟩
    · rintro ⟨rest, hrest, rfl⟩
      exact ⟨c.past [x] (text ++ rest), mem_ends_only.2 ⟨_, hrest, rfl⟩,
        ih.2 ⟨rest, rfl, (Cursor.past_past [x]).symm⟩⟩

theorem mem_ends_literal {text : String} : after ∈ (literal text).ends length c ↔
    ∃ rest, c.rest = text.toList ++ rest ∧ after = c.past text.toList rest := mem_ends_letters

end Members

/-! ## Searching -/

section Searching

variable {p : Pattern} {length position : ℕ} {before rest : List Char} {found : Found} {c : Cursor}

theorem matchAt?_eq_some_iff : p.matchAt? length c = some found ↔
    found.start = c ∧ (p.ends length c).head? = some found.stop := by
  unfold matchAt?
  rw [run_some, Option.map_eq_some_iff]
  constructor
  · rintro ⟨stop, hstop, rfl⟩
    exact ⟨rfl, hstop⟩
  · rintro ⟨rfl, hstop⟩
    exact ⟨found.stop, hstop, rfl⟩

theorem matchAt?_eq_none_iff : p.matchAt? length c = none ↔ p.ends length c = [] := by
  unfold matchAt?
  rw [run_some, Option.map_eq_none_iff, List.head?_eq_none_iff]

/-- The place after some characters of a text, at which nothing is remembered. -/
def Cursor.at (before : List Char) (position : ℕ) (part left : List Char) : Cursor :=
  ⟨part.reverse ++ before, left, position + part.length, []⟩

theorem at_cons (before : List Char) (position : ℕ) (x : Char) (part left : List Char) :
    Cursor.at (x :: before) (position + 1) part left = .at before position (x :: part) left := by
  unfold Cursor.at
  rw [List.reverse_cons, List.append_assoc, List.length_cons, Nat.add_comm part.length,
    ← Nat.add_assoc]
  rfl

theorem at_append (before : List Char) (position : ℕ) (moved part left : List Char) :
    Cursor.at before position (moved ++ part) left =
      .at (moved.reverse ++ before) (position + moved.length) part left := by
  unfold Cursor.at
  rw [List.reverse_append, List.append_assoc, List.length_append, Nat.add_assoc]

theorem head?_before_at {before left : List Char} :
    (Cursor.at [] 0 before left).before.head? = before.getLast? := by
  unfold Cursor.at
  rw [List.append_nil, List.head?_reverse]

/-- Nothing is found exactly if the pattern leads nowhere from any place. -/
theorem searchFrom_eq_none_iff : p.searchFrom length before position rest = none ↔
    ∀ part left, rest = part ++ left → p.ends length (.at before position part left) = [] := by
  induction rest generalizing before position with
  | nil =>
    unfold searchFrom
    rw [matchAt?_eq_none_iff]
    constructor
    · intro h part left hsplit
      obtain ⟨rfl, rfl⟩ := List.append_eq_nil_iff.1 hsplit.symm
      exact h
    · exact fun h => h [] [] rfl
  | cons x rest ih =>
    unfold searchFrom
    cases hfirst : p.matchAt? length ⟨before, x :: rest, position, []⟩ with
    | some first =>
      refine iff_of_false nofun fun h => ?_
      have hnone := matchAt?_eq_none_iff.2 (h [] (x :: rest) rfl)
      cases hfirst.symm.trans hnone
    | none =>
      dsimp only
      rw [ih]
      constructor
      · intro h part left hsplit
        cases part with
        | nil =>
          obtain rfl : x :: rest = left := hsplit
          exact matchAt?_eq_none_iff.1 hfirst
        | cons y part =>
          obtain ⟨rfl, rfl⟩ := List.cons.inj hsplit
          rw [← at_cons]
          exact h part left rfl
      · intro h part left hsplit
        rw [at_cons]
        exact h (x :: part) left (by rw [hsplit, List.cons_append])

/-- What is found is the first of the places that the pattern leads to, from the first place from which it
leads anywhere. -/
theorem searchFrom_spec (h : p.searchFrom length before position rest = some found) :
    ∃ part left, rest = part ++ left ∧ found.start = .at before position part left ∧
      (p.ends length found.start).head? = some found.stop ∧
      ∀ part' left', rest = part' ++ left' → part'.length < part.length →
        p.ends length (.at before position part' left') = [] := by
  induction rest generalizing before position with
  | nil =>
    obtain ⟨hstart, hstop⟩ := matchAt?_eq_some_iff.1 h
    exact ⟨[], [], rfl, hstart, hstart ▸ hstop, nofun⟩
  | cons x rest ih =>
    unfold searchFrom at h
    cases hfirst : p.matchAt? length ⟨before, x :: rest, position, []⟩ with
    | some first =>
      rw [hfirst] at h
      obtain rfl := Option.some.inj h
      obtain ⟨hstart, hstop⟩ := matchAt?_eq_some_iff.1 hfirst
      exact ⟨[], x :: rest, rfl, hstart, hstart ▸ hstop, nofun⟩
    | none =>
      rw [hfirst] at h
      obtain ⟨part, left, rfl, hstart, hstop, hearlier⟩ := ih h
      refine ⟨x :: part, left, rfl, hstart.trans (at_cons ..), hstop, ?_⟩
      intro part' left' hsplit hlength
      cases part' with
      | nil =>
        obtain rfl : x :: (part ++ left) = left' := hsplit
        exact matchAt?_eq_none_iff.1 hfirst
      | cons y part' =>
        obtain ⟨rfl, hrest⟩ := List.cons.inj hsplit
        rw [← at_cons]
        exact hearlier part' left' hrest (Nat.lt_of_succ_lt_succ hlength)

/-- A match among those from a place on begins at a place further right and ends where the pattern leads
from there. -/
theorem mem_allFrom {fuel : ℕ} (h : found ∈ p.allFrom length fuel c) :
    ∃ part left, c.rest = part ++ left ∧ found.start = .at c.before c.position part left ∧
      (p.ends length found.start).head? = some found.stop := by
  induction fuel generalizing c with
  | zero => cases h
  | succ fuel ih =>
    unfold allFrom at h
    split at h
    · cases h
    · next first hfirst =>
      obtain ⟨part, left, hrest, hstart, hstop, -⟩ := searchFrom_spec hfirst
      have hreaches := reaches_of_mem_ends (List.mem_of_head? hstop)
      -- the search goes on from a place that the first match has reached
      have hlater : ∀ mid : Cursor, first.start.Reaches mid → found ∈ p.allFrom length fuel mid →
          ∃ part left, c.rest = part ++ left ∧ found.start = .at c.before c.position part left ∧
            (p.ends length found.start).head? = some found.stop := by
        intro mid hmid hfound
        obtain ⟨more, left', hrest', hstart', hstop'⟩ := ih hfound
        obtain ⟨moved, hmoved, hbefore, hposition⟩ := hmid
        rw [hstart] at hmoved hbefore hposition
        refine ⟨part ++ moved ++ more, left', ?_, ?_, hstop'⟩
        · rw [hrest, show left = moved ++ mid.rest from hmoved, hrest']
          simp
        · rw [hstart']
          unfold Cursor.at at hbefore hposition ⊢
          rw [hbefore, hposition]
          simp [Nat.add_assoc]
      split at h
      · split at h
        · cases h
        · exact hlater _ (hreaches.trans (Cursor.reaches_forward _)) h
      · rcases List.mem_cons.1 h with rfl | h
        · exact ⟨part, left, hrest, hstart, hstop⟩
        · exact hlater _ hreaches h

variable {text : List Char}

theorem search_eq_none_iff : p.search text = none ↔
    ∀ part left, text = part ++ left → p.ends text.length (.at [] 0 part left) = [] :=
  searchFrom_eq_none_iff

/-- A pattern occurs in a text exactly if it leads somewhere from a place in it. -/
theorem search_isSome_iff : (p.search text).isSome = true ↔
    ∃ part left after, text = part ++ left ∧ after ∈ p.ends text.length (.at [] 0 part left) := by
  rw [Option.isSome_iff_ne_none, ne_eq, search_eq_none_iff]
  simp only [not_forall]
  constructor
  · rintro ⟨part, left, hsplit, hends⟩
    obtain ⟨after, hafter⟩ := List.exists_mem_of_ne_nil _ hends
    exact ⟨part, left, after, hsplit, hafter⟩
  · rintro ⟨part, left, after, hsplit, hafter⟩
    exact ⟨part, left, hsplit, List.ne_nil_of_mem hafter⟩

/-- A pattern matches at the beginning of a text exactly if it leads somewhere from there. -/
theorem matchStart_isSome_iff : (p.matchStart text).isSome = true ↔
    ∃ after, after ∈ p.ends text.length (.start text) := by
  unfold matchStart
  rw [Option.isSome_iff_ne_none, ne_eq, matchAt?_eq_none_iff, List.eq_nil_iff_forall_not_mem]
  exact not_forall_not

/-- A pattern that begins where the text begins occurs only there. -/
theorem search_textStart_isSome_iff : ((Pattern.seq (.anchor .textStart) p).search text).isSome = true ↔
    ∃ after, after ∈ p.ends text.length (.start text) := by
  rw [search_isSome_iff]
  simp only [mem_ends_seq, mem_ends_anchor]
  constructor
  · rintro ⟨part, left, after, rfl, _, ⟨hstart, rfl⟩, hafter⟩
    obtain rfl : part = [] := by
      unfold Anchor.holds Cursor.at at hstart
      simpa using hstart
    exact ⟨after, hafter⟩
  · rintro ⟨after, hafter⟩
    exact ⟨[], text, after, rfl, _, ⟨rfl, rfl⟩, hafter⟩

/-- What a match is made of: what stands before it, its own characters, and what is left. -/
structure Found.Splits (found : Found) (p : Pattern) (text : List Char) : Prop where
  eq : text = found.start.before.reverse ++ found.text ++ found.stop.rest
  start : found.start = .at [] 0 found.start.before.reverse (found.text ++ found.stop.rest)
  stop : (p.ends text.length found.start).head? = some found.stop

/-- A match stands where it begins, and what stands there is its own characters and what is left. -/
theorem Found.Splits.rest_eq (h : found.Splits p text) :
    found.start.rest = found.text ++ found.stop.rest ∧
      text = found.start.before.reverse ++ found.start.rest := by
  have hrest : found.start.rest = found.text ++ found.stop.rest := congrArg Cursor.rest h.start
  refine ⟨hrest, ?_⟩
  rw [hrest, ← List.append_assoc]
  exact h.eq

/-- How far from the beginning of the text a match stands. -/
theorem Found.Splits.positions (h : found.Splits p text) :
    found.start.position = found.start.before.length ∧
      found.stop.position = found.start.before.length + found.text.length := by
  have hstart : found.start.position = found.start.before.length := by
    have hposition := congrArg Cursor.position h.start
    unfold Cursor.at at hposition
    simpa using hposition
  obtain ⟨moved, hrest, -, hposition⟩ := reaches_of_mem_ends (List.mem_of_head? h.stop)
  obtain rfl := List.append_cancel_right (hrest.symm.trans h.rest_eq.1)
  exact ⟨hstart, by rw [hposition, hstart]⟩

theorem splits_of_start {part left : List Char} (hsplit : text = part ++ left)
    (hstart : found.start = .at [] 0 part left)
    (hstop : (p.ends text.length found.start).head? = some found.stop) : found.Splits p text := by
  obtain ⟨moved, hrest, hbefore, hposition⟩ := reaches_of_mem_ends (List.mem_of_head? hstop)
  have hpart : found.start.before.reverse = part := by
    rw [hstart]
    unfold Cursor.at
    simp
  have hmoved : found.text = moved := by
    unfold Found.text
    rw [hposition, Nat.add_sub_cancel_left, hbefore, List.take_left' (List.length_reverse ..),
      List.reverse_reverse]
  have hleft : left = found.text ++ found.stop.rest := by
    rw [hmoved, ← hrest, hstart]
    rfl
  refine ⟨?_, ?_, hstop⟩
  · rw [hpart, List.append_assoc, ← hleft, hsplit]
  · rw [hpart, ← hleft, hstart]

theorem splits_of_search (h : p.search text = some found) : found.Splits p text := by
  obtain ⟨part, left, hsplit, hstart, hstop, -⟩ := searchFrom_spec h
  exact splits_of_start hsplit hstart hstop

/-- A search finds the first match: none begins further left. -/
theorem ends_eq_nil_of_search (h : p.search text = some found) {part left : List Char}
    (hsplit : text = part ++ left) (hlength : part.length < found.start.before.length) :
    p.ends text.length (.at [] 0 part left) = [] := by
  obtain ⟨first, rest, -, hstart, -, hearlier⟩ := searchFrom_spec h
  refine hearlier part left hsplit ?_
  rw [hstart] at hlength
  unfold Cursor.at at hlength
  simpa using hlength

theorem splits_of_mem_all (h : found ∈ p.all text) : found.Splits p text := by
  obtain ⟨part, left, hsplit, hstart, hstop⟩ := mem_allFrom h
  exact splits_of_start hsplit hstart hstop

end Searching

end CodeReview.Pattern
