/-
Patterns that stay in a line. They move over no line feed and look at none of the characters beyond one
(`staysInLine`), so from places with the same line around them they lead over the same characters
(`forall₂_ends`), and a text has as many matches as its lines have together (`length_all_eq_sum`).
-/
import CodeReview.Proofs.Pattern.Counting
import CodeReview.Proofs.Text.Rows
import Mathlib.Data.List.TakeWhile

namespace CodeReview.Pattern

/-! ## Places in the same line -/

/-- The character does not end a line. -/
def inLine (x : Char) : Bool := x != '\n'

theorem inLine_iff {x : Char} : inLine x = true ↔ x ≠ '\n' := bne_iff_ne

/-- What stands before two places is the same up to the beginning of the line, and what stands behind them
up to the end of it. -/
structure SameLine (c d : Cursor) : Prop where
  before : c.before.takeWhile inLine = d.before.takeWhile inLine
  rest : c.rest.takeWhile inLine = d.rest.takeWhile inLine

/-- Two places and those behind the same characters of a line. -/
def MovedTogether (c d after after' : Cursor) : Prop :=
  ∃ part left left', (∀ x ∈ part, inLine x = true) ∧ c.rest = part ++ left ∧ d.rest = part ++ left' ∧
    after = c.past part left ∧ after' = d.past part left'

section Places

variable {l l' : List Char} {c d mid mid' after after' : Cursor}

theorem head?_of_takeWhile_eq_nil (h : l.takeWhile inLine = []) : ∀ x ∈ l.head?, x = '\n' := by
  intro x hx
  obtain ⟨more, rfl⟩ := List.head?_eq_some_iff.1 hx
  by_contra hne
  rw [List.takeWhile_cons_of_pos (inLine_iff.2 hne)] at h
  cases h

theorem takeWhile_eq_nil_of_head? (h : ∀ x ∈ l.head?, x = '\n') : l.takeWhile inLine = [] := by
  cases l with
  | nil => rfl
  | cons x more =>
    rw [h x rfl]
    rfl

theorem exists_of_takeWhile_eq_cons {x : Char} {part : List Char}
    (h : l.takeWhile inLine = x :: part) :
    inLine x = true ∧ ∃ more, l = x :: more ∧ more.takeWhile inLine = part := by
  cases l with
  | nil => cases h
  | cons y more =>
    rw [List.takeWhile_cons] at h
    split at h
    · next hy =>
      obtain ⟨rfl, hmore⟩ := List.cons.inj h
      exact ⟨hy, more, rfl, hmore⟩
    · cases h

/-- Texts that are the same up to the end of the line begin with one character or with none of it. -/
theorem heads_of_takeWhile_eq (h : l.takeWhile inLine = l'.takeWhile inLine) :
    (∃ x more more', inLine x = true ∧ l = x :: more ∧ l' = x :: more' ∧
      more.takeWhile inLine = more'.takeWhile inLine) ∨
    (∀ x ∈ l.head?, x = '\n') ∧ ∀ x ∈ l'.head?, x = '\n' := by
  cases hline : l.takeWhile inLine with
  | nil => exact .inr ⟨head?_of_takeWhile_eq_nil hline, head?_of_takeWhile_eq_nil (h ▸ hline)⟩
  | cons x part =>
    obtain ⟨hx, more, rfl, hmore⟩ := exists_of_takeWhile_eq_cons hline
    obtain ⟨-, more', rfl, hmore'⟩ := exists_of_takeWhile_eq_cons (h ▸ hline)
    exact .inl ⟨x, more, more', hx, rfl, rfl, hmore.trans hmore'.symm⟩

theorem any_head?_eq {test : Char → Bool} (htest : test '\n' = false)
    (h : l.takeWhile inLine = l'.takeWhile inLine) : l.head?.any test = l'.head?.any test := by
  rcases heads_of_takeWhile_eq h with ⟨x, more, more', -, rfl, rfl, -⟩ | ⟨hl, hl'⟩
  · rfl
  · have hnone (l : List Char) (hl : ∀ x ∈ l.head?, x = '\n') : l.head?.any test = false :=
      (Option.any_eq_false ..).2 fun x hx => hl x hx ▸ htest
    rw [hnone l hl, hnone l' hl']

theorem MovedTogether.refl (c d : Cursor) : MovedTogether c d c d :=
  ⟨[], c.rest, d.rest, nofun, rfl, rfl, rfl, rfl⟩

theorem MovedTogether.trans (h : MovedTogether c d mid mid') (h' : MovedTogether mid mid' after after') :
    MovedTogether c d after after' := by
  obtain ⟨part, left, left', hpart, hrest, hrest', rfl, rfl⟩ := h
  obtain ⟨more, left₁, left₁', hmore, hleft, hleft', rfl, rfl⟩ := h'
  rw [Cursor.past_rest] at hleft hleft'
  refine ⟨part ++ more, left₁, left₁', ?_, ?_, ?_, Cursor.past_past part, Cursor.past_past part⟩
  · exact List.forall_mem_append.2 ⟨hpart, hmore⟩
  · rw [hrest, hleft, List.append_assoc]
  · rw [hrest', hleft', List.append_assoc]

theorem MovedTogether.sameLine (h : MovedTogether c d after after') (hsame : SameLine c d) :
    SameLine after after' := by
  obtain ⟨part, left, left', hpart, hrest, hrest', rfl, rfl⟩ := h
  have hrev : ∀ x ∈ part.reverse, inLine x = true := fun x hx => hpart x (List.mem_reverse.1 hx)
  refine ⟨?_, ?_⟩
  · rw [Cursor.past_before, Cursor.past_before, List.takeWhile_append_of_pos hrev,
      List.takeWhile_append_of_pos hrev, hsame.before]
  · have h := hsame.rest
    rw [hrest, hrest', List.takeWhile_append_of_pos hpart, List.takeWhile_append_of_pos hpart] at h
    exact List.append_cancel_left h

end Places

/-! ## Patterns that stay in a line -/

/-- The test fails at the end of a line. -/
def CharTest.staysInLine (test : CharTest) : Bool := !test.holds '\n'

/-- The place is told by the characters beside it, and a line feed counts for as much as the end of the
text. -/
def Anchor.staysInLine : Anchor → Bool
  | .lineStart | .lineEnd | .wordBoundary _ => true
  | .textStart | .textEnd | .lastLineEnd | .noWordBoundary _ => false

/-- The pattern is put together of characters of a line and of places in it. -/
def staysInLine : Pattern → Bool
  | .empty | .never => true
  | .char test => test.staysInLine
  | .seq p q | .alt p q => p.staysInLine && q.staysInLine
  | .chars test _ _ .greedy => test.staysInLine
  | .atomic p => p.staysInLine
  | .ahead _ p => p.staysInLine
  | .behind _ 1 (.char test) => test.staysInLine
  | .anchor place => Anchor.staysInLine place
  | _ => false

section Ends

variable {test : CharTest} {p q : Pattern} {c d after after' : Cursor} {length length' : ℕ}

theorem holds_eq_false_of_staysInLine (h : test.staysInLine = true) : test.holds '\n' = false := by
  unfold CharTest.staysInLine at h
  simpa using h

/-! ### Characters -/

theorem forall₂_ends_char (h : test.staysInLine = true) (hsame : SameLine c d) :
    List.Forall₂ (MovedTogether c d) ((Pattern.char test).ends length c)
      ((Pattern.char test).ends length' d) := by
  rcases heads_of_takeWhile_eq hsame.rest with ⟨x, more, more', hx, hrest, hrest', -⟩ | ⟨hrest, hrest'⟩
  · have hmoved : MovedTogether c d (c.past [x] more) (d.past [x] more') :=
      ⟨[x], more, more', by simpa using hx, hrest, hrest', rfl, rfl⟩
    unfold ends
    rw [hrest, hrest']
    dsimp only
    split
    · exact .cons hmoved .nil
    · exact .nil
  · -- at the end of the line the test fails
    have hnil (length : ℕ) (c : Cursor) (hrest : ∀ x ∈ c.rest.head?, x = '\n') :
        (Pattern.char test).ends length c = [] :=
      ends_char_eq_nil_iff.2 fun x hx => hrest x hx ▸ holds_eq_false_of_staysInLine h
    rw [hnil length c hrest, hnil length' d hrest']
    exact .nil

theorem takeRun_of_head? {most : Option ℕ} {captures : List (ℕ × List Char)} {count position : ℕ}
    {before rest : List Char} (h : ∀ x ∈ rest.head?, test.holds x = false) :
    takeRun test most captures count before position rest =
      (count, ⟨before, rest, position, captures⟩) := by
  cases rest with
  | nil => rfl
  | cons x rest =>
    unfold takeRun
    rw [h x rfl, Bool.and_false]
    rfl

/-- Runs over characters of the same line take the same of them. -/
theorem takeRun_together (h : test.staysInLine = true) (most : Option ℕ)
    (captures captures' : List (ℕ × List Char)) (count : ℕ) (before before' : List Char)
    (position position' : ℕ) {rest rest' : List Char}
    (hrest : rest.takeWhile inLine = rest'.takeWhile inLine) :
    ∃ part left left', rest = part ++ left ∧ rest' = part ++ left' ∧
      (∀ x ∈ part, inLine x = true) ∧
      takeRun test most captures count before position rest =
        (count + part.length, ⟨part.reverse ++ before, left, position + part.length, captures⟩) ∧
      takeRun test most captures' count before' position' rest' =
        (count + part.length, ⟨part.reverse ++ before', left', position' + part.length, captures'⟩) := by
  have hfails {rest : List Char} (hends : ∀ x ∈ rest.head?, x = '\n') :
      ∀ x ∈ rest.head?, test.holds x = false :=
    fun x hx => hends x hx ▸ holds_eq_false_of_staysInLine h
  induction rest generalizing count before before' position position' rest' with
  | nil =>
    have hends := head?_of_takeWhile_eq_nil hrest.symm
    exact ⟨[], [], rest', rfl, rfl, nofun, rfl, takeRun_of_head? (hfails hends)⟩
  | cons x rest ih =>
    rcases heads_of_takeWhile_eq hrest with ⟨y, more, more', hy, hcons, rfl, hmore⟩ | ⟨hends, hends'⟩
    · obtain ⟨rfl, rfl⟩ := List.cons.inj hcons
      obtain ⟨part, left, left', hpart, hpart', hin, hrun, hrun'⟩ :=
        ih (count + 1) (x :: before) (x :: before') (position + 1) (position' + 1) hmore
      unfold takeRun
      split
      · refine ⟨x :: part, left, left', by rw [hpart]; rfl, by rw [hpart']; rfl,
          List.forall_mem_cons.2 ⟨hy, hin⟩, ?_, ?_⟩
        · rw [hrun, List.length_cons, List.reverse_cons, List.append_assoc, Nat.add_assoc count,
            Nat.add_assoc position, Nat.add_comm 1]
          rfl
        · rw [hrun', List.length_cons, List.reverse_cons, List.append_assoc, Nat.add_assoc count,
            Nat.add_assoc position', Nat.add_comm 1]
          rfl
      · exact ⟨[], x :: rest, x :: more', rfl, rfl, nofun, rfl, rfl⟩
    · exact ⟨[], x :: rest, rest', rfl, rfl, nofun, takeRun_of_head? (hfails hends),
        takeRun_of_head? (hfails hends')⟩

theorem past_append_singleton_back (c : Cursor) (part left : List Char) (x : Char) :
    (c.past (part ++ [x]) left).back = c.past part (x :: left) := by
  unfold Cursor.past Cursor.back
  simp

/-- Going back over characters of the same line leads to places in it. -/
theorem forall₂_backs {extra : ℕ} {part left left' : List Char} (hpart : ∀ x ∈ part, inLine x = true)
    (hrest : c.rest = part ++ left) (hrest' : d.rest = part ++ left') (hextra : extra ≤ part.length) :
    List.Forall₂ (MovedTogether c d) (backs extra (c.past part left)) (backs extra (d.past part left')) := by
  induction extra generalizing part left left' with
  | zero => exact .cons ⟨part, left, left', hpart, hrest, hrest', rfl, rfl⟩ .nil
  | succ extra ih =>
    refine .cons ⟨part, left, left', hpart, hrest, hrest', rfl, rfl⟩ ?_
    rcases List.eq_nil_or_concat part with rfl | ⟨init, x, rfl⟩
    · cases hextra
    · rw [List.concat_eq_append] at hpart hrest hrest' hextra ⊢
      rw [past_append_singleton_back, past_append_singleton_back]
      rw [List.append_assoc] at hrest hrest'
      rw [List.length_append, List.length_singleton] at hextra
      exact ih (fun y hy => hpart y (List.mem_append_left _ hy)) hrest hrest' (by omega)

theorem forall₂_endsChars (h : test.staysInLine = true) (hsame : SameLine c d) (least : ℕ)
    (most : Option ℕ) : List.Forall₂ (MovedTogether c d) (endsChars test least most .greedy c)
      (endsChars test least most .greedy d) := by
  obtain ⟨part, left, left', hrest, hrest', hpart, hrun, hrun'⟩ := takeRun_together h most c.captures
    d.captures 0 c.before d.before c.position d.position hsame.rest
  unfold endsChars
  dsimp only
  rw [hrun, hrun', Nat.zero_add]
  dsimp only
  split
  · exact .nil
  · exact forall₂_backs hpart hrest hrest' (Nat.sub_le _ _)

/-! ### Looking around -/

theorem head?_of_forall₂ {R : Cursor → Cursor → Prop} {places places' : List Cursor}
    (h : List.Forall₂ R places places') :
    (places.head? = none ∧ places'.head? = none) ∨
      ∃ after after', places.head? = some after ∧ places'.head? = some after' ∧ R after after' := by
  cases h with
  | nil => exact .inl ⟨rfl, rfl⟩
  | cons hfirst _ => exact .inr ⟨_, _, rfl, rfl, hfirst⟩

theorem captures_of_mem_none {after : Cursor} (h : after ∈ (none : Option Cursor)) :
    after.captures = c.captures := absurd h (Option.not_mem_none after)

/-- Looking around from two places leaves both where they are, or neither, if the same is seen. -/
theorem forall₂_lookedAround {negated : Bool} {seen seen' : Option Cursor}
    (h : seen.isSome = seen'.isSome) (hc : ∀ after ∈ seen, after.captures = c.captures)
    (hd : ∀ after ∈ seen', after.captures = d.captures) :
    List.Forall₂ (MovedTogether c d) (lookedAround negated c seen) (lookedAround negated d seen') := by
  have hstays : List.Forall₂ (MovedTogether c d) [c] [d] := .cons (.refl c d) .nil
  unfold lookedAround
  cases seen with
  | none =>
    cases seen' with
    | none => cases negated <;> simp [hstays]
    | some after' => cases h
  | some after =>
    cases seen' with
    | none => cases h
    | some after' =>
      dsimp only
      rw [hc after rfl, hd after' rfl]
      split
      · exact .nil
      · exact hstays

/-- What a test of the last character sees. -/
def seenBefore (test : CharTest) (length : ℕ) (c : Cursor) : Option Cursor :=
  (c.backBy 1).bind fun start => ((Pattern.char test).ends length start).head?

theorem seenBefore_spec (test : CharTest) (length : ℕ) (c : Cursor) :
    (seenBefore test length c).isSome = c.before.head?.any test.holds ∧
      ∀ after ∈ seenBefore test length c, after.captures = c.captures := by
  unfold seenBefore Cursor.backBy Cursor.backBy Cursor.back
  cases hbefore : c.before with
  | nil => exact ⟨rfl, fun _ => captures_of_mem_none⟩
  | cons x before =>
    rw [if_neg (by simp), Option.bind_some, List.head?_cons, Option.any_some]
    unfold ends
    dsimp only
    split
    · next hx =>
      refine ⟨hx.symm, ?_⟩
      rintro _ ⟨⟩
      rfl
    · next hx => exact ⟨(Bool.eq_false_iff.2 hx).symm, fun _ => captures_of_mem_none⟩

/-- Places in the same line are told by the same anchors. -/
theorem holds_anchor_eq {place : Anchor} (h : Anchor.staysInLine place = true) (hsame : SameLine c d) :
    Anchor.holds c place = Anchor.holds d place := by
  have hfeed (l : List Char) : (l.isEmpty || l.head? == some '\n') = !l.head?.any inLine := by
    cases l with
    | nil => rfl
    | cons x l => simp [inLine, bne]
  cases place with
  | lineStart =>
    unfold Anchor.holds
    dsimp only
    rw [hfeed, hfeed, any_head?_eq rfl hsame.before]
  | lineEnd =>
    unfold Anchor.holds
    dsimp only
    rw [hfeed, hfeed, any_head?_eq rfl hsame.rest]
  | wordBoundary asciiOnly =>
    have hfeed : ClassName.word.holds asciiOnly '\n' = false := by
      cases asciiOnly <;> decide +kernel
    unfold Anchor.holds
    dsimp only
    unfold Cursor.atWordEdge
    dsimp only
    rw [any_head?_eq hfeed hsame.before, any_head?_eq hfeed hsame.rest]
  | textStart | textEnd | lastLineEnd | noWordBoundary _ => cases h

/-! ### Patterns -/

/-- From places in the same line a pattern that stays in it leads over the same characters. -/
theorem forall₂_ends (length length' : ℕ) (h : p.staysInLine = true) (hsame : SameLine c d) :
    List.Forall₂ (MovedTogether c d) (p.ends length c) (p.ends length' d) := by
  induction p generalizing c d with
  | empty => exact .cons (.refl c d) .nil
  | never => exact .nil
  | char test => exact forall₂_ends_char h hsame
  | seq p q ihp ihq =>
    obtain ⟨hp, hq⟩ := Bool.and_eq_true_iff.1 h
    unfold ends
    refine List.rel_flatMap (ihp hp hsame) fun mid mid' hmid => ?_
    refine (ihq hq (hmid.sameLine hsame)).imp fun after after' hafter => hmid.trans hafter
  | alt p q ihp ihq =>
    obtain ⟨hp, hq⟩ := Bool.and_eq_true_iff.1 h
    unfold ends
    exact List.rel_append (ihp hp hsame) (ihq hq hsame)
  | chars test least most kind =>
    cases kind with
    | greedy => exact forall₂_endsChars h hsame least most
    | reluctant => cases h
    | possessive => cases h
  | atomic p ih =>
    unfold ends
    rcases head?_of_forall₂ (ih h hsame) with ⟨hnone, hnone'⟩ | ⟨after, after', hsome, hsome', hmoved⟩
    · rw [hnone, hnone']
      exact .nil
    · rw [hsome, hsome']
      exact .cons hmoved .nil
  | ahead negated p ih =>
    unfold ends
    rcases head?_of_forall₂ (ih h hsame) with ⟨hnone, hnone'⟩ | ⟨after, after', hsome, hsome', hmoved⟩
    · rw [hnone, hnone']
      exact forall₂_lookedAround rfl (fun _ => captures_of_mem_none) fun _ => captures_of_mem_none
    · obtain ⟨part, left, left', -, -, -, rfl, rfl⟩ := hmoved
      rw [hsome, hsome']
      refine forall₂_lookedAround rfl ?_ ?_
      · rintro _ ⟨⟩
        rfl
      · rintro _ ⟨⟩
        rfl
  | behind negated width p ih =>
    obtain ⟨test, rfl, rfl, htest⟩ :
        ∃ test, width = 1 ∧ p = .char test ∧ test.staysInLine = true := by
      unfold staysInLine at h
      split at h <;> simp_all
    obtain ⟨hsome, hcaptures⟩ := seenBefore_spec test length c
    obtain ⟨hsome', hcaptures'⟩ := seenBefore_spec test length' d
    refine forall₂_lookedAround ?_ hcaptures hcaptures'
    show (seenBefore test length c).isSome = (seenBefore test length' d).isSome
    rw [hsome, hsome', any_head?_eq (holds_eq_false_of_staysInLine htest) hsame.before]
  | anchor place =>
    unfold ends
    rw [holds_anchor_eq h hsame]
    split
    · exact .cons (.refl c d) .nil
    · exact .nil
  | repeated | capture | «recall» | ifCaptured => cases h

/-- From places in the same line a pattern that stays in it leads no further than they are, or behind the
same characters of the line. -/
theorem stays_or_moves_together (length length' : ℕ) (h : p.staysInLine = true) (hsame : SameLine c d) :
    ((∀ stop ∈ (p.ends length c).head?, stop.position = c.position) ∧
      ∀ stop ∈ (p.ends length' d).head?, stop.position = d.position) ∨
    ∃ x part left left', c.rest = x :: part ++ left ∧ d.rest = x :: part ++ left' ∧
      (p.ends length c).head? = some (c.past (x :: part) left) ∧
      (p.ends length' d).head? = some (d.past (x :: part) left') ∧
      inLine x = true ∧ SameLine (c.past (x :: part) left) (d.past (x :: part) left') := by
  rcases head?_of_forall₂ (forall₂_ends length length' h hsame) with
    ⟨hnone, hnone'⟩ | ⟨after, after', hsome, hsome', hmoved⟩
  · rw [hnone, hnone']
    exact .inl ⟨nofun, nofun⟩
  · have hbehind := hmoved.sameLine hsame
    obtain ⟨part, left, left', hpart, hrest, hrest', rfl, rfl⟩ := hmoved
    rw [hsome, hsome']
    cases part with
    | nil =>
      refine .inl ⟨?_, ?_⟩
      · rintro _ ⟨⟩
        rfl
      · rintro _ ⟨⟩
        rfl
    | cons x part =>
      exact .inr ⟨x, part, left, left', hrest, hrest', rfl, rfl, hpart x List.mem_cons_self, hbehind⟩

end Ends

/-! ## Matches in the lines of a text -/

section Lines

variable {p : Pattern} {length position : ℕ} {before rest : List Char}

/-- No match begins at the end of a line. -/
theorem countFrom_lineFeed (h : p.staysInLine = true) :
    p.countFrom length before position ('\n' :: rest) =
      p.countFrom length ('\n' :: before) (position + 1) rest := by
  have hsame : SameLine ⟨before, '\n' :: rest, position, []⟩ ⟨before, '\n' :: rest, position, []⟩ := ⟨rfl, rfl⟩
  rcases stays_or_moves_together length length h hsame with
    ⟨hstays, -⟩ | ⟨x, part, left, -, hrest, -, -, -, hx, -⟩
  · exact countFrom_of_stays hstays
  · obtain ⟨rfl, -⟩ := List.cons.inj hrest
    cases hx

/-- A line ends where the text does or a line feed stands. -/
theorem takeWhile_inLine_append {line more : List Char} (hwhole : ∀ x ∈ line, inLine x = true)
    (hmore : ∀ x ∈ more.head?, x = '\n') : (line ++ more).takeWhile inLine = line.takeWhile inLine := by
  rw [List.takeWhile_append_of_pos hwhole, takeWhile_eq_nil_of_head? hmore, List.append_nil,
    List.takeWhile_eq_self_iff.2 hwhole]

/-- What is found in a line is found in it alone as well. -/
theorem countFrom_append (h : p.staysInLine = true) (length' : ℕ) {before' : List Char} (position' : ℕ)
    {line more : List Char} (hwhole : ∀ x ∈ line, inLine x = true) (hmore : ∀ x ∈ more.head?, x = '\n')
    (hbefore : before.takeWhile inLine = before'.takeWhile inLine) :
    p.countFrom length before position (line ++ more) = p.countFrom length' before' position' line +
      p.countFrom length (line.reverse ++ before) (position + line.length) more := by
  -- a match takes several characters, so the induction is on the number of those left in the line
  induction hlength : line.length using Nat.strong_induction_on
    generalizing line before before' position position' with
  | _ n ih =>
  subst hlength
  cases line with
  | nil => simp
  | cons x line =>
    obtain ⟨hx, hline'⟩ := List.forall_mem_cons.1 hwhole
    have hsame : SameLine ⟨before, x :: line ++ more, position, []⟩ ⟨before', x :: line, position', []⟩ :=
      ⟨hbefore, takeWhile_inLine_append hwhole hmore⟩
    rcases stays_or_moves_together length length' h hsame with
      ⟨hstays, hstays'⟩ | ⟨y, part, left, left', hrest, hline, hsome, hsome', -, hbehind⟩
    · have hnext : (x :: before).takeWhile inLine = (x :: before').takeWhile inLine := by
        rw [List.takeWhile_cons_of_pos hx, List.takeWhile_cons_of_pos hx, hbefore]
      rw [List.cons_append] at hstays ⊢
      rw [countFrom_of_stays hstays, countFrom_of_stays hstays',
        ih line.length (Nat.lt_succ_self _) (position' + 1) hline' hnext rfl, List.reverse_cons,
        List.append_assoc, List.length_cons, Nat.add_assoc position, Nat.add_comm 1]
      rfl
    · dsimp only at hrest hline
      have hleft : left = left' ++ more := by
        have hsplit : y :: part ++ left = y :: part ++ (left' ++ more) := by
          rw [← List.append_assoc, ← hline, ← hrest]
        exact List.append_cancel_left hsplit
      have hin : ∀ z ∈ left', inLine z = true := fun z hz =>
        hwhole z (hline ▸ List.mem_append_right _ hz)
      have hfewer : left'.length < (x :: line).length := by
        rw [hline, List.length_append, List.length_cons]
        omega
      have hbehind := hbehind.before
      rw [countFrom_of_moves hsome (by simp), countFrom_of_moves hsome' (by simp)]
      simp only [Cursor.past_before, Cursor.past_rest, Cursor.past_position] at hbehind ⊢
      rw [hleft, ih left'.length hfewer _ hin hbehind rfl, hline, List.reverse_append,
        List.append_assoc, List.length_append, ← Nat.add_assoc position]
      exact Nat.add_right_comm _ _ _

/-- A pattern that stays in a line has as many matches in lines that are joined as in the lines alone. -/
theorem countFrom_unlines (h : p.staysInLine = true) {lines : List (List Char)} (hne : lines ≠ [])
    (hlines : ∀ line ∈ lines, '\n' ∉ line) (hbefore : ∀ x ∈ before.head?, x = '\n') :
    p.countFrom length before position (Text.unlines lines) =
      (lines.map fun line => (p.all line).length).sum := by
  have hstart : before.takeWhile inLine = ([] : List Char).takeWhile inLine :=
    takeWhile_eq_nil_of_head? hbefore
  induction lines generalizing before position with
  | nil => exact absurd rfl hne
  | cons line lines ih =>
    obtain ⟨hline, hlines⟩ := List.forall_mem_cons.1 hlines
    have hin : ∀ x ∈ line, inLine x = true := by
      intro x hx
      rw [inLine_iff]
      rintro rfl
      exact hline hx
    rw [List.map_cons, List.sum_cons, length_all]
    cases lines with
    | nil =>
      have halone : p.countFrom length before position (line ++ []) = _ :=
        countFrom_append h line.length 0 hin nofun hstart
      rw [List.append_nil, countFrom_nil] at halone
      exact halone
    | cons next lines =>
      show p.countFrom length before position (line ++ '\n' :: Text.unlines (next :: lines)) = _
      rw [countFrom_append h line.length 0 hin (by simp) hstart, countFrom_lineFeed h,
        ih (List.cons_ne_nil _ _) hlines (by simp) (by simp [inLine])]

/-- A text has as many matches of a pattern that stays in a line as its lines have together. -/
theorem length_all_eq_sum (h : p.staysInLine = true) (text : List Char) :
    (p.all text).length = ((Text.lines text).map fun line => (p.all line).length).sum := by
  have hjoined : p.countFrom text.length [] 0 (Text.unlines (Text.lines text)) =
      ((Text.lines text).map fun line => (p.all line).length).sum :=
    countFrom_unlines h (Text.splitOnChar_ne_nil _ _)
      (fun _ hline => Text.notMem_of_mem_splitOnChar hline) nofun
  rw [Text.unlines_lines] at hjoined
  exact hjoined

end Lines

end CodeReview.Pattern
