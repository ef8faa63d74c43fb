/-
What fixes bring about. A fix that puts some characters in the place of others makes no line that a style
rule is about out of one that it is not about (`Swaps.keeps`), and neither does the one that adds equals
signs (`keeps_strictEquality`). Each of the four rules that say how to write a statement has a fix after
which it has nothing to say of the line, unless the line has become a comment (`settles_fixer`).
-/
import CodeReview.Proofs.Fix.Rewriting
import Mathlib.Data.List.TakeWhile

namespace CodeReview.Fix

open Rule

variable {line fixed before part rest u t old new : List Char}

/-! ## What the rules look for -/

/-- The part of a line that declares something in the old way. -/
def IsDeclaration (part : List Char) : Prop :=
  ∃ indent x, part = indent ++ "var".toList ++ [x] ∧ (∀ c ∈ indent, Text.isBlank c = true) ∧
    Text.isBlank x = true

/-- The part of a line that calls a method of the console. -/
def IsConsoleCall (part : List Char) : Prop :=
  ∃ method ∈ consoleMethods, ∃ gap, part = "console.".toList ++ method ++ gap ++ ['('] ∧
    ∀ c ∈ gap, Text.isBlank c = true

theorem declaresVar_iff : DeclaresVar line ↔ ∃ part rest, line = part ++ rest ∧ IsDeclaration part := by
  constructor
  · rintro ⟨indent, x, rest, rfl, hindent, hx⟩
    exact ⟨_, rest, by simp, indent, x, rfl, hindent, hx⟩
  · rintro ⟨_, rest, rfl, indent, x, rfl, hindent, hx⟩
    exact ⟨indent, x, rest, by simp, hindent, hx⟩

theorem callsConsole_iff : CallsConsole line ↔ ∃ before part rest, line = before ++ part ++ rest ∧
    IsConsoleCall part ∧ ∀ c ∈ before.getLast?, Text.isWordChar c = false := by
  constructor
  · rintro ⟨before, method, gap, rest, rfl, hmethod, hgap, hedge⟩
    exact ⟨before, _, rest, by simp, ⟨method, hmethod, gap, rfl, hgap⟩, hedge⟩
  · rintro ⟨before, _, rest, rfl, ⟨method, hmethod, gap, rfl, hgap⟩, hedge⟩
    exact ⟨before, method, gap, rest, by simp, hmethod, hgap, hedge⟩

theorem IsDeclaration.mem {c : Char} (h : IsDeclaration part) (hc : c ∈ part) :
    Text.isBlank c = true ∨ c ∈ "var".toList := by
  obtain ⟨indent, x, rfl, hindent, hx⟩ := h
  simp only [List.mem_append, List.mem_singleton] at hc
  rcases hc with (hc | hc) | rfl
  · exact .inl (hindent c hc)
  · exact .inr hc
  · exact .inl hx

theorem IsConsoleCall.spec (h : IsConsoleCall part) : part ≠ [] ∧ '=' ∉ part := by
  have hmethods : ∀ method ∈ consoleMethods, '=' ∉ method := by decide
  obtain ⟨method, hmethod, gap, rfl, hgap⟩ := h
  refine ⟨by simp, fun hmem => ?_⟩
  simp only [List.mem_append] at hmem
  rcases hmem with ((hmem | hmem) | hmem) | hmem
  · exact absurd hmem (by decide)
  · exact hmethods method hmethod hmem
  · exact absurd (hgap '=' hmem) (by decide)
  · exact absurd hmem (by decide)

theorem mem_of_stopsDebugger {c : Char} (h : StopsDebugger line) (hc : c ∈ line) :
    Text.isBlank c = true ∨ c ∈ "debugger;".toList := by
  obtain ⟨indent, gap, semicolon, after, rfl, hindent, hgap, hsemicolon, hafter⟩ := h
  simp only [List.mem_append] at hc
  rcases hc with (((hc | hc) | hc) | hc) | hc
  · exact .inl (hindent c hc)
  · exact .inr (List.mem_append_left [';'] hc)
  · exact .inl (hgap c hc)
  · rcases hsemicolon with rfl | rfl
    · cases hc
    · exact .inr (List.mem_append_right "debugger".toList hc)
  · exact .inl (hafter c hc)

/-! ## Lines before and after a fix -/

/-- No rule about declarations, comparisons, the console or the debugger has anything to say of the second
line that it had not to say of the first. -/
structure Keeps (line fixed : List Char) : Prop where
  declaresVar : DeclaresVar fixed → DeclaresVar line
  comparesLoosely : ComparesLoosely fixed → ComparesLoosely line
  callsConsole : CallsConsole fixed → CallsConsole line
  stopsDebugger : StopsDebugger fixed → StopsDebugger line

theorem Keeps.refl (line : List Char) : Keeps line line := ⟨id, id, id, id⟩

/-! ## Parts in the place of others -/

/-- The words that are put into a line. -/
def newWords : List (List Char) := ["let".toList, "CONSTANT".toList, "for".toList]

/-- Characters that a fix takes away and those that it puts in their place: a word comes first, there is no
sign of a comparison or an access among them, and they end as the others did, in a blank or in the same
digit. -/
structure Swaps (old new : List Char) : Prop where
  word : ∃ word ∈ newWords, word <+: new
  plain : ∀ c ∈ new, c ∉ "=!.".toList
  starts : old.head? ≠ some '='
  ends : ∃ x ∈ old.getLast?, ∃ y ∈ new.getLast?,
    (Text.isBlank x = true ∧ Text.isBlank y = true) ∨ (Text.isDigit x = true ∧ x = y)

/-- A part of a line in which some characters are new stands before them or behind them, reaches into them
or begins among them. -/
theorem split_cases (h : before ++ part ++ rest = u ++ new ++ t) :
    (∃ a, u = before ++ part ++ a ∧ rest = a ++ new ++ t) ∨
    (∃ a, before = u ++ new ++ a ∧ t = a ++ part ++ rest) ∨
    (∃ a c, c ≠ [] ∧ part = a ++ c ∧ new ++ t = c ++ rest) ∨
    ∃ c d, d ≠ [] ∧ new = c ++ d ∧ part ++ rest = d ++ t := by
  rw [List.append_assoc u] at h
  rcases List.append_eq_append_iff.1 h with ⟨a, hu, hrest⟩ | ⟨c, hpart, hnew⟩
  · exact .inl ⟨a, hu, by rw [hrest, List.append_assoc]⟩
  rcases List.append_eq_append_iff.1 hpart with ⟨a, hu, hsplit⟩ | ⟨a, hbefore, rfl⟩
  · cases c with
    | nil =>
      refine .inl ⟨[], ?_, ?_⟩
      · rw [hu, hsplit]
        simp
      · simpa using hnew.symm
    | cons x c => exact .inr (.inr (.inl ⟨a, x :: c, List.cons_ne_nil _ _, hsplit, hnew⟩))
  rw [List.append_assoc] at hnew
  rcases List.append_eq_append_iff.1 hnew with ⟨d, ha, ht⟩ | ⟨d, hsplit, hrest⟩
  · exact .inr (.inl ⟨d, by rw [hbefore, ha, List.append_assoc], by rw [ht, List.append_assoc]⟩)
  · cases d with
    | nil =>
      refine .inr (.inl ⟨[], ?_, ?_⟩)
      · rw [hbefore, hsplit]
        simp
      · simpa using hrest.symm
    | cons x d => exact .inr (.inr (.inr ⟨a, x :: d, List.cons_ne_nil _ _, hsplit, hrest⟩))

/-- A part of a line without some character that stands in it ends before it. -/
theorem exists_eq_append_of_notMem {c : Char} (h : part ++ rest = u ++ c :: t) (hc : c ∉ part) :
    ∃ more, u = part ++ more := by
  rcases List.append_eq_append_iff.1 h with ⟨more, hu, -⟩ | ⟨more, hpart, hrest⟩
  · exact ⟨more, hu⟩
  · cases more with
    | nil => exact ⟨[], by rw [hpart, List.append_nil, List.append_nil]⟩
    | cons x more =>
      obtain ⟨rfl, -⟩ := List.cons.inj hrest
      exact absurd (hpart ▸ List.mem_append_right u List.mem_cons_self) hc

/-- The last character of two texts of which the second ends the first, or of the first if it is empty. -/
theorem getLast?_append_congr {first second more : List Char} {P : Char → Prop}
    (hlast : (∀ c ∈ first.getLast?, P c) → ∀ c ∈ second.getLast?, P c)
    (h : ∀ c ∈ (first ++ more).getLast?, P c) : ∀ c ∈ (second ++ more).getLast?, P c := by
  rw [List.getLast?_append] at h ⊢
  cases hmore : more.getLast? with
  | some x => rwa [hmore] at h
  | none =>
    rw [hmore] at h
    exact hlast h

namespace Swaps

/-- What is put in begins with the first letter of a new word. -/
theorem eq_cons (h : Swaps old new) : ∃ c more, new = c :: more ∧ c ∈ "lCf".toList := by
  have hfirst : ∀ word ∈ newWords, word.head?.any (fun c => decide (c ∈ "lCf".toList)) = true := by decide
  obtain ⟨word, hword, more, rfl⟩ := h.word
  obtain ⟨c, hc, hmem⟩ := (Option.any_eq_true _ _).1 (hfirst word hword)
  obtain ⟨rest, rfl⟩ := List.head?_eq_some_iff.1 hc
  exact ⟨c, rest ++ more, rfl, of_decide_eq_true hmem⟩

theorem declaresVar (h : Swaps old new) (hdeclares : DeclaresVar (u ++ new ++ t)) :
    DeclaresVar (u ++ old ++ t) := by
  have hfirst : ∀ c ∈ "lCf".toList, Text.isBlank c = false ∧ c ∉ "var".toList :=
    List.all_iff_forall_prop.1 (by decide)
  obtain ⟨c, more, rfl, hc⟩ := h.eq_cons
  obtain ⟨part, rest, hsplit, hpart⟩ := declaresVar_iff.1 hdeclares
  have hnot : c ∉ part := fun hmem => by
    rcases hpart.mem hmem with hblank | hvar
    · exact Bool.false_ne_true ((hfirst c hc).1.symm.trans hblank)
    · exact (hfirst c hc).2 hvar
  rw [List.append_assoc, List.cons_append] at hsplit
  obtain ⟨between, rfl⟩ := exists_eq_append_of_notMem hsplit.symm hnot
  exact declaresVar_iff.2 ⟨part, between ++ old ++ t, by simp, hpart⟩

theorem stopsDebugger (h : Swaps old new) : ¬StopsDebugger (u ++ new ++ t) := by
  have hfirst : ∀ c ∈ "lCf".toList, Text.isBlank c = false ∧ c ∉ "debugger;".toList :=
    List.all_iff_forall_prop.1 (by decide)
  obtain ⟨c, more, rfl, hc⟩ := h.eq_cons
  intro hstops
  rcases mem_of_stopsDebugger hstops (c := c) (by simp) with hblank | hmem
  · exact Bool.false_ne_true ((hfirst c hc).1.symm.trans hblank)
  · exact (hfirst c hc).2 hmem

theorem comparesLoosely (h : Swaps old new) (hcompares : ComparesLoosely (u ++ new ++ t)) :
    ComparesLoosely (u ++ old ++ t) := by
  have hsigns : ∀ c ∈ "=!".toList, c ∈ "=!.".toList := List.all_iff_forall_prop.1 (by decide)
  have hblank : ∀ c ∈ comparisonSigns, Text.isBlank c = false ∧ Text.isDigit c = false :=
    List.all_iff_forall_prop.1 (by decide)
  obtain ⟨before, sign, rest, hsplit, hsign, hbefore, hrest⟩ := hcompares
  have hsplit' : before ++ [sign, '='] ++ rest = u ++ new ++ t := by
    rw [hsplit, List.append_assoc]
    rfl
  have hpair : ∀ c ∈ [sign, '='], c ∉ new := by
    intro c hc hmem
    rcases List.mem_pair.1 hc with rfl | rfl
    · exact h.plain c hmem (hsigns c hsign)
    · exact h.plain '=' hmem (by decide)
  obtain ⟨x, hx, y, hy, hends⟩ := h.ends
  rcases split_cases hsplit' with ⟨a, rfl, rfl⟩ | ⟨a, rfl, rfl⟩ | ⟨a, c, hc, hpart, hover⟩ |
    ⟨c, d, hd, hnew, hover⟩
  · -- what follows the signs may be what is taken away
    refine ⟨before, sign, a ++ old ++ t, by simp, hsign, hbefore, ?_⟩
    cases a with
    | nil =>
      have hne : old ≠ [] := by
        rintro rfl
        cases hx
      obtain ⟨z, old, rfl⟩ := List.exists_cons_of_ne_nil hne
      exact h.starts
    | cons z a => exact hrest
  · -- what stands before the signs may be what is taken away
    refine ⟨u ++ old ++ a, sign, rest, by simp, hsign, ?_, hrest⟩
    refine getLast?_append_congr (fun _ => ?_) hbefore
    rw [List.getLast?_append, hx, Option.some_or]
    rintro _ ⟨⟩ hmem
    rcases hends with ⟨hxblank, -⟩ | ⟨hdigit, -⟩
    · exact Bool.false_ne_true ((hblank x hmem).1.symm.trans hxblank)
    · exact Bool.false_ne_true ((hblank x hmem).2.symm.trans hdigit)
  · obtain ⟨z, c, rfl⟩ := List.exists_cons_of_ne_nil hc
    obtain ⟨first, more, rfl, -⟩ := h.eq_cons
    obtain ⟨rfl, -⟩ := List.cons.inj hover
    exact absurd List.mem_cons_self (hpair first (hpart ▸ List.mem_append_right a List.mem_cons_self))
  · obtain ⟨z, d, rfl⟩ := List.exists_cons_of_ne_nil hd
    obtain ⟨rfl, -⟩ := List.cons.inj hover
    exact absurd (hnew ▸ List.mem_append_right c List.mem_cons_self) (hpair sign List.mem_cons_self)

/-- No new word stands in a call of the console. -/
theorem not_infix_of_isConsoleCall {word : List Char} (hword : word ∈ newWords) (hpart : IsConsoleCall part) :
    ¬word <:+: part := by
  have hnone : ∀ word ∈ newWords, ∀ method ∈ consoleMethods,
      ¬word <:+: "console.".toList ++ method := by decide +kernel
  have hlast : ∀ word ∈ newWords,
      word.getLast?.any (fun c => decide (Text.isBlank c = false ∧ c ≠ '(')) = true := by decide
  obtain ⟨method, hmethod, gap, rfl, hgap⟩ := hpart
  obtain ⟨c, hc, hclast⟩ := (Option.any_eq_true _ _).1 (hlast word hword)
  obtain ⟨hcblank, hcopen⟩ := of_decide_eq_true hclast
  rintro ⟨front, back, hsplit⟩
  rw [List.append_assoc _ gap] at hsplit
  rcases List.append_eq_append_iff.1 hsplit with ⟨more, hmore, -⟩ | ⟨more, hmore, htail⟩
  · exact hnone word hword method hmethod ⟨front, more, hmore.symm⟩
  · rcases List.eq_nil_or_concat more with rfl | ⟨more, z, rfl⟩
    · exact hnone word hword method hmethod ⟨front, [], by rw [hmore]; simp⟩
    · -- the word would end in the gap or in the parenthesis
      have hz : (front ++ word).getLast? = some z := by
        rw [hmore, List.concat_eq_append, ← List.append_assoc, List.getLast?_concat]
      rw [List.getLast?_append, hc, Option.some_or] at hz
      obtain rfl := Option.some.inj hz
      have hmem : c ∈ gap ++ ['('] := by
        rw [htail]
        simp
      rcases List.mem_append.1 hmem with hmem | hmem
      · exact Bool.false_ne_true (hcblank.symm.trans (hgap c hmem))
      · exact hcopen (List.mem_singleton.1 hmem)

theorem callsConsole (h : Swaps old new) (hcalls : CallsConsole (u ++ new ++ t)) :
    CallsConsole (u ++ old ++ t) := by
  have hconsole : ∀ c ∈ "console.".toList, Text.isBlank c = false ∧ Text.isDigit c = false :=
    List.all_iff_forall_prop.1 (by decide)
  obtain ⟨before, part, rest, hsplit, hpart, hedge⟩ := callsConsole_iff.1 hcalls
  obtain ⟨x, hx, y, hy, hends⟩ := h.ends
  rcases split_cases hsplit.symm with ⟨a, rfl, rfl⟩ | ⟨a, rfl, rfl⟩ | ⟨a, c, hc, rfl, hover⟩ |
    ⟨c, d, hd, rfl, hover⟩
  · exact callsConsole_iff.2 ⟨before, part, a ++ old ++ t, by simp, hpart, hedge⟩
  · refine callsConsole_iff.2 ⟨u ++ old ++ a, part, rest, by simp, hpart, ?_⟩
    refine getLast?_append_congr (fun hnew => ?_) hedge
    rw [List.getLast?_append, hy, Option.some_or] at hnew
    rw [List.getLast?_append, hx, Option.some_or]
    rintro _ ⟨⟩
    rcases hends with ⟨hxblank, -⟩ | ⟨-, rfl⟩
    · exact Text.isWordChar_of_isBlank hxblank
    · exact hnew x rfl
  · -- the call reaches into the new word, and past it
    obtain ⟨word, hword, more, rfl⟩ := h.word
    have hnone := not_infix_of_isConsoleCall hword hpart
    have hopen : ∀ word ∈ newWords, '(' ∉ word := by decide
    rw [List.append_assoc] at hover
    rcases List.append_eq_append_iff.1 hover with ⟨between, rfl, -⟩ | ⟨between, rfl, -⟩
    · exact absurd ⟨a, between, List.append_assoc _ _ _⟩ hnone
    · have hmem : '(' ∈ c := by
        obtain ⟨method, -, gap, heq, -⟩ := hpart
        have hlast := congrArg List.getLast? heq
        rw [List.getLast?_append_of_ne_nil _ hc] at hlast
        exact List.mem_of_getLast? (hlast.trans List.getLast?_concat)
      exact absurd (List.mem_append_left _ hmem) (hopen _ hword)
  · -- the call begins in the new word and leaves it before the point, or after it
    have hylast : y ∈ d := by
      rw [List.getLast?_append_of_ne_nil _ hd] at hy
      exact List.mem_of_getLast? hy
    obtain ⟨method, -, gap, rfl, -⟩ := hpart
    rw [List.append_assoc, List.append_assoc, List.append_assoc] at hover
    rcases List.append_eq_append_iff.1 hover with ⟨between, rfl, -⟩ | ⟨between, heq, -⟩
    · exact absurd (by decide) (h.plain '.' (List.mem_append_right c (List.mem_append_left _ (by decide))))
    · have hmem := hconsole y (heq ▸ List.mem_append_left between hylast)
      rcases hends with ⟨-, hblank⟩ | ⟨hdigit, rfl⟩
      · exact Bool.noConfusion (hmem.1.symm.trans hblank)
      · exact Bool.noConfusion (hmem.2.symm.trans hdigit)

theorem keeps (h : Swaps old new) : Keeps (u ++ old ++ t) (u ++ new ++ t) :=
  ⟨h.declaresVar, h.comparesLoosely, h.callsConsole, fun hstops => absurd hstops h.stopsDebugger⟩

end Swaps

/-! ### What the fixes put in -/

/-- A text that ends in blanks ends in one. -/
theorem isBlank_getLast? (front : List Char) {gap : List Char} (hsome : gap ≠ [])
    (hgap : ∀ c ∈ gap, Text.isBlank c = true) : ∃ x ∈ (front ++ gap).getLast?, Text.isBlank x = true := by
  rw [List.getLast?_append_of_ne_nil _ hsome]
  exact ⟨gap.getLast hsome, List.getLast?_eq_some_getLast hsome, hgap _ (List.getLast_mem hsome)⟩

theorem swaps_var {gap : List Char} (hsome : gap ≠ []) (hgap : ∀ c ∈ gap, Text.isBlank c = true) :
    Swaps ("var".toList ++ gap) "let ".toList where
  word := ⟨"let".toList, by decide, by decide⟩
  plain := List.all_iff_forall_prop.1 (by decide)
  starts := by
    show some 'v' ≠ some '='
    decide
  ends := by
    obtain ⟨x, hx, hblank⟩ := isBlank_getLast? "var".toList hsome hgap
    exact ⟨x, hx, ' ', rfl, .inl ⟨hblank, by decide⟩⟩

theorem swaps_number {number : List Char} (hsome : number ≠ [])
    (hdigits : ∀ c ∈ number, Text.isDigit c = true) : Swaps number ("CONSTANT_".toList ++ number) := by
  have hsigns : ∀ c ∈ "=!.".toList, Text.isDigit c = false := List.all_iff_forall_prop.1 (by decide)
  have hname : ∀ c ∈ "CONSTANT_".toList, c ∉ "=!.".toList := List.all_iff_forall_prop.1 (by decide)
  refine ⟨⟨"CONSTANT".toList, by decide, '_' :: number, rfl⟩, fun c hc hmem => ?_, fun hhead => ?_, ?_⟩
  · rcases List.mem_append.1 hc with hc | hc
    · exact absurd hmem (hname c hc)
    · exact Bool.false_ne_true ((hsigns c hmem).symm.trans (hdigits c hc))
  · have hdigit := hdigits '=' (List.mem_of_mem_head? hhead)
    exact absurd hdigit (by decide)
  · refine ⟨number.getLast hsome, List.getLast?_eq_some_getLast hsome, number.getLast hsome, ?_,
      .inr ⟨hdigits _ (List.getLast_mem hsome), rfl⟩⟩
    rw [List.getLast?_append_of_ne_nil _ hsome]
    exact List.getLast?_eq_some_getLast hsome

theorem swaps_forIn (head : LoopHead) : Swaps head.overKeys head.overValues := by
  have hsigns : ∀ c ∈ "=!.".toList, Text.isWordChar c = false :=
    List.all_iff_forall_prop.1 (by decide +kernel)
  have hplain : ∀ c ∈ "for (".toList ++ ' ' :: " of ".toList, c ∉ "=!.".toList :=
    List.all_iff_forall_prop.1 (by decide)
  have hall : ∀ keyword ∈ ["var".toList, "let".toList, "const".toList],
      keyword.all (fun c => decide (c ∉ "=!.".toList)) = true := by decide
  have hkeywords : ∀ c ∈ head.keyword, c ∉ "=!.".toList :=
    List.all_iff_forall_prop.1 (hall _ head.keyword_mem)
  refine ⟨⟨"for".toList, by decide, ?_⟩, fun c hc => ?_, ?_, ?_⟩
  · exact ⟨" (".toList ++ head.keyword ++ ' ' :: head.name ++ " of ".toList, by
      unfold LoopHead.overValues
      simp⟩
  · unfold LoopHead.overValues at hc
    simp only [List.mem_append, List.mem_cons] at hc
    rcases hc with ((hc | hc) | (rfl | hc)) | hc
    · exact hplain c (List.mem_append_left _ hc)
    · exact hkeywords c hc
    · exact hplain ' ' (by decide)
    · exact fun hmem => Bool.false_ne_true ((hsigns c hmem).symm.trans (head.isWordChar c hc))
    · exact hplain c (List.mem_append_right _ (List.mem_cons_of_mem _ hc))
  · show some 'f' ≠ some '='
    decide
  · obtain ⟨x, hx, hxblank⟩ := isBlank_getLast? _ (head.ne_nil head.afterIn (by simp))
      (head.isBlank head.afterIn (by simp))
    refine ⟨x, hx, ' ', ?_, .inl ⟨hxblank, by decide⟩⟩
    unfold LoopHead.overValues
    rw [List.getLast?_append_of_ne_nil _ (by decide)]
    decide

theorem keeps_varToLet (line : List Char) : Keeps line (varToLet line) := by
  rcases varToLet_cases line with ⟨hsame, -⟩ | ⟨before, gap, rest, rfl, hsome, hgap, -, hfixed, -⟩
  · rw [hsame]
    exact .refl line
  · rw [hfixed]
    exact (swaps_var hsome hgap).keeps

theorem keeps_nameNumber (line : List Char) : Keeps line (nameNumber line) := by
  rcases nameNumber_cases line with hsame | ⟨before, number, rest, hfirst, hfixed⟩
  · rw [hsame]
    exact .refl line
  · have hnumber := hfirst.needsName.integer
    rw [hfixed, hfirst.eq]
    exact (swaps_number hnumber.ne_nil hnumber.digits).keeps

theorem keeps_forInToForOf (line : List Char) : Keeps line (forInToForOf line) := by
  rcases forInToForOf_cases line with hsame | ⟨before, head, rest, rfl, hfixed⟩
  · rw [hsame]
    exact .refl line
  · rw [hfixed]
    exact (swaps_forIn head).keeps

/-! ## Equals signs -/

theorem not_comparesLoosely_strictEquality (line : List Char) : ¬ComparesLoosely (strictEquality line) := by
  rw [strictEquality_eq_strictFrom]
  rintro ⟨before, sign, rest, hsplit, hsign, hbefore, hrest⟩
  refine hrest (not_opens_of_strictFrom_eq hsplit hsign ?_)
  rwa [Option.or_none]

theorem keeps_strictEquality (line : List Char) : Keeps line (strictEquality line) := by
  have hequals : Text.isBlank '=' = false ∧ '=' ∉ "var".toList ∧ '=' ∉ "debugger;".toList := by decide
  refine ⟨fun hdeclares => ?_, fun hcompares => absurd hcompares (not_comparesLoosely_strictEquality line),
    fun hcalls => ?_, fun hstops => ?_⟩
  · rw [strictEquality_eq_strictFrom] at hdeclares
    obtain ⟨part, rest, hsplit, hpart⟩ := declaresVar_iff.1 hdeclares
    have hnot : '=' ∉ part := fun hmem => by
      rcases hpart.mem hmem with hblank | hvar
      · exact Bool.false_ne_true (hequals.1.symm.trans hblank)
      · exact hequals.2.1 hvar
    obtain ⟨more, rfl⟩ := eq_append_of_strictFrom_eq hsplit hnot
    exact declaresVar_iff.2 ⟨part, more, rfl, hpart⟩
  · rw [strictEquality_eq_strictFrom] at hcalls
    obtain ⟨before, part, rest, hsplit, hpart, hedge⟩ := callsConsole_iff.1 hcalls
    obtain ⟨hsome, hnot⟩ := hpart.spec
    obtain ⟨front, more, rfl, hlast⟩ := split_of_strictFrom_eq hsplit hsome hnot
    exact callsConsole_iff.2 ⟨front, part, more, rfl, hpart, by rwa [hlast]⟩
  · rw [strictEquality_eq_strictFrom] at hstops
    have hnot : '=' ∉ strictFrom none line := fun hmem => by
      rcases mem_of_stopsDebugger hstops hmem with hblank | hmem
      · exact Bool.false_ne_true (hequals.1.symm.trans hblank)
      · exact hequals.2.2 hmem
    rwa [strictFrom_eq_self hnot] at hstops

/-! ## Each rule and its own fix -/

/-- Behind indentation the pattern of the fix leads over `var` and a blank. -/
theorem ends_varPattern_ne_nil {length : ℕ} {indent : List Char} {x : Char}
    (hindent : ∀ c ∈ indent, Text.isBlank c = true) (hx : Text.isBlank x = true) :
    Fix.varPattern.ends length (.at [] 0 indent ("var".toList ++ x :: rest)) ≠ [] := by
  have hword : Text.isWordChar 'v' = true := by decide +kernel
  have hedge : ∀ y ∈ (Pattern.Cursor.at [] 0 indent ("var".toList ++ x :: rest)).before.head?,
      Text.isWordChar y = false := by
    rw [Pattern.head?_before_at]
    exact fun y hy => Text.isWordChar_of_isBlank (hindent y (List.mem_of_getLast? hy))
  have hleads : ∃ after, after ∈
      Fix.varPattern.ends length (.at [] 0 indent ("var".toList ++ x :: rest)) := by
    unfold Fix.varPattern
    simp only [Pattern.sequence, Pattern.mem_ends_seq, Pattern.wordEdge, Pattern.mem_ends_anchor]
    refine ⟨_, _, ⟨(Pattern.atWordEdge_iff (x := 'v') rfl hword).2 hedge, rfl⟩, _,
      Pattern.mem_ends_literal.2 ⟨x :: rest, rfl, rfl⟩,
      Pattern.mem_ends_oneOrMore.2 ⟨[x], rest, rfl, ?_, List.cons_ne_nil _ _, rfl⟩⟩
    simpa only [Pattern.holds_blank, List.mem_singleton, forall_eq] using hx
  obtain ⟨after, hafter⟩ := hleads
  exact List.ne_nil_of_mem hafter

/-- Nothing is declared in the old way any more: the declaration that is left would have come first. -/
theorem not_declaresVar_varToLet (line : List Char) : ¬DeclaresVar (varToLet line) := by
  intro hdeclares
  obtain ⟨part, rest, hsplit, indent, x, rfl, hindent, hx⟩ := declaresVar_iff.1 hdeclares
  rcases varToLet_cases line with ⟨hsame, hnone⟩ | ⟨before, gap, left, rfl, -, -, -, hfixed, hfirst⟩
  · rw [hsame] at hsplit
    refine ends_varPattern_ne_nil hindent hx (Pattern.search_eq_none_iff.1 hnone indent
      ("var".toList ++ x :: rest) ?_)
    rw [hsplit]
    simp
  · rw [hfixed, List.append_assoc] at hsplit
    have hnot : 'l' ∉ indent ++ "var".toList ++ [x] := fun hmem => by
      rcases IsDeclaration.mem ⟨indent, x, rfl, hindent, hx⟩ hmem with hblank | hvar
      · exact absurd hblank (by decide)
      · exact absurd hvar (by decide)
    obtain ⟨more, rfl⟩ := exists_eq_append_of_notMem hsplit.symm hnot
    refine ends_varPattern_ne_nil hindent hx
      (hfirst indent ("var".toList ++ x :: (more ++ ("var".toList ++ gap) ++ left)) (by simp) ?_)
    simp only [List.length_append, List.length_singleton]
    omega

theorem isComment_commentOut (line : List Char) : isComment (commentOut line) = true := by
  unfold isComment commentOut Text.stripLeft
  rw [List.append_assoc, List.dropWhile_append_of_pos fun c hc => List.mem_takeWhile_imp hc]
  rfl

/-- The rules that a round of fixes settles, with the lines that each of them is about. -/
def settledRules : List (String × (List Char → Prop)) :=
  [("prefer-let-const", DeclaresVar), ("prefer-strict-equality", ComparesLoosely),
    ("no-console-statements", CallsConsole), ("no-debugger-statements", StopsDebugger)]

variable {rule : String} {about : List Char → Prop} {fixer : List Char → List Char}

theorem mem_settledRules_iff : (rule, about) ∈ settledRules ↔
    (rule = "prefer-let-const" ∧ about = DeclaresVar) ∨
    (rule = "prefer-strict-equality" ∧ about = ComparesLoosely) ∨
    (rule = "no-console-statements" ∧ about = CallsConsole) ∨
    (rule = "no-debugger-statements" ∧ about = StopsDebugger) := by
  simp only [settledRules, List.mem_cons, List.not_mem_nil, or_false, Prod.mk.injEq]

theorem Keeps.of_mem (h : Keeps line fixed) (hrule : (rule, about) ∈ settledRules) :
    about fixed → about line := by
  rcases mem_settledRules_iff.1 hrule with ⟨-, rfl⟩ | ⟨-, rfl⟩ | ⟨-, rfl⟩ | ⟨-, rfl⟩
  · exact h.declaresVar
  · exact h.comparesLoosely
  · exact h.callsConsole
  · exact h.stopsDebugger

/-- A rule that is settled has a fix, which makes a comment of a line or leaves nothing for the rule to be
about. -/
theorem settles_fixer (hrule : (rule, about) ∈ settledRules) :
    ∃ fixer, fixer? rule = some fixer ∧ ∀ line, isComment (fixer line) = true ∨ ¬about (fixer line) := by
  rcases mem_settledRules_iff.1 hrule with ⟨rfl, rfl⟩ | ⟨rfl, rfl⟩ | ⟨rfl, rfl⟩ | ⟨rfl, rfl⟩
  · exact ⟨varToLet, rfl, fun line => .inr (not_declaresVar_varToLet line)⟩
  · exact ⟨strictEquality, rfl, fun line => .inr (not_comparesLoosely_strictEquality line)⟩
  · exact ⟨commentOut, rfl, fun line => .inl (isComment_commentOut line)⟩
  · exact ⟨commentOut, rfl, fun line => .inl (isComment_commentOut line)⟩

/-- No fix gives a settled rule something to be about, unless in a comment. -/
theorem keeps_fixer (h : fixer? rule = some fixer) (line : List Char) :
    isComment (fixer line) = true ∨ Keeps line (fixer line) := by
  unfold fixer? at h
  split_ifs at h
  · obtain rfl := Option.some.inj h
    exact .inr (keeps_varToLet line)
  · obtain rfl := Option.some.inj h
    exact .inr (keeps_strictEquality line)
  · obtain rfl := Option.some.inj h
    exact .inl (isComment_commentOut line)
  · obtain rfl := Option.some.inj h
    exact .inl (isComment_commentOut line)
  · obtain rfl := Option.some.inj h
    exact .inr (keeps_nameNumber line)
  · obtain rfl := Option.some.inj h
    exact .inr (keeps_forInToForOf line)

end CodeReview.Fix
