/-
What the style rules say of a line. Each of the patterns occurs in a line exactly if the line is put
together in one way: of indentation, `var` and a blank, of a sign and an equals sign between others that
make no longer operator, of a call of a method of `console`, or of `debugger` alone.
-/
import CodeReview.Proofs.Pattern.Finding
import CodeReview.Rule.Style

namespace CodeReview.Rule

open Pattern

variable {line : List Char}

/-! ## Lines -/

/-- The line begins with `var` after its indentation. -/
def DeclaresVar (line : List Char) : Prop :=
  ∃ indent x rest, line = indent ++ "var".toList ++ x :: rest ∧
    (∀ c ∈ indent, Text.isBlank c = true) ∧ Text.isBlank x = true

/-- The signs that `==` and `!=` may not stand behind. -/
def comparisonSigns : List Char := "=!<>".toList

/-- The line holds `==` or `!=`, not as a part of a longer operator. -/
def ComparesLoosely (line : List Char) : Prop :=
  ∃ before sign rest, line = before ++ sign :: '=' :: rest ∧ sign ∈ "=!".toList ∧
    (∀ c ∈ before.getLast?, c ∉ comparisonSigns) ∧ rest.head? ≠ some '='

/-- The methods of the console that write something. -/
def consoleMethods : List (List Char) :=
  ["log".toList, "debug".toList, "info".toList, "warn".toList, "error".toList, "trace".toList]

/-- The line calls a method of the console. -/
def CallsConsole (line : List Char) : Prop :=
  ∃ before method gap rest, line = before ++ "console.".toList ++ method ++ gap ++ '(' :: rest ∧
    method ∈ consoleMethods ∧ (∀ c ∈ gap, Text.isBlank c = true) ∧
    ∀ c ∈ before.getLast?, Text.isWordChar c = false

/-- There is nothing but `debugger` on the line, with a semicolon or none. -/
def StopsDebugger (line : List Char) : Prop :=
  ∃ indent gap semicolon after, line = indent ++ "debugger".toList ++ gap ++ semicolon ++ after ∧
    (∀ c ∈ indent, Text.isBlank c = true) ∧ (∀ c ∈ gap, Text.isBlank c = true) ∧
    (semicolon = [] ∨ semicolon = [';']) ∧ ∀ c ∈ after, Text.isBlank c = true

/-! ## Declarations -/

theorem varPattern_isSome_iff : (varPattern.search line).isSome = true ↔ DeclaresVar line := by
  refine search_textStart_isSome_iff.trans ?_
  unfold DeclaresVar
  simp only [Pattern.sequence, mem_ends_seq]
  constructor
  · rintro ⟨_, _, hfirst, _, hvar, hsecond⟩
    obtain ⟨indent, rest, hline, hindent, rfl⟩ := mem_ends_many.1 hfirst
    obtain ⟨rest₁, hrest₁, rfl⟩ := mem_ends_literal.1 hvar
    obtain ⟨gap, rest₂, hrest₂, hgap, hsome, -⟩ := mem_ends_oneOrMore.1 hsecond
    obtain ⟨x, more, rfl⟩ := List.exists_cons_of_ne_nil hsome
    simp only [holds_blank] at hindent hgap
    obtain rfl : line = indent ++ rest := hline
    obtain rfl : rest = "var".toList ++ rest₁ := hrest₁
    obtain rfl : rest₁ = x :: more ++ rest₂ := hrest₂
    exact ⟨indent, x, more ++ rest₂, by simp, hindent, hgap x (by simp)⟩
  · rintro ⟨indent, x, rest, rfl, hindent, hx⟩
    refine ⟨_, _, mem_ends_many.2 ⟨indent, "var".toList ++ x :: rest,
      List.append_assoc .., ?_, rfl⟩, _, mem_ends_literal.2 ⟨x :: rest, rfl, rfl⟩,
      mem_ends_oneOrMore.2 ⟨[x], rest, rfl, ?_, List.cons_ne_nil _ _, rfl⟩⟩
    · simpa only [holds_blank] using hindent
    · simpa only [holds_blank, List.mem_singleton, forall_eq] using hx

/-! ## Comparisons -/

/-- Where a loose comparison leads, whatever is remembered of its first sign. -/
theorem mem_ends_looseEquality_of {remember : Pattern → Pattern} {length : ℕ} {c after : Cursor}
    {noted : Char → List (ℕ × List Char)}
    (hsigns : ∀ after, after ∈ (remember (.char (.among "=!"))).ends length c ↔ ∃ sign rest,
      c.rest = sign :: rest ∧ sign ∈ "=!".toList ∧
        after = { c.past [sign] rest with captures := noted sign }) :
    after ∈ (looseEquality remember).ends length c ↔ ∃ sign rest, c.rest = sign :: '=' :: rest ∧
      sign ∈ "=!".toList ∧ (∀ x ∈ c.before.head?, x ∉ comparisonSigns) ∧ rest.head? ≠ some '=' ∧
      after = { c.past [sign, '='] rest with captures := noted sign } := by
  unfold looseEquality comparisonSigns
  simp only [Pattern.sequence, mem_ends_seq, mem_ends_behind_not, Bool.eq_false_iff, ne_eq, holds_among,
    mem_ends_ahead_not, holds_only]
  constructor
  · rintro ⟨_, ⟨hbefore, rfl⟩, _, hsign, _, hequals, hahead, rfl⟩
    obtain ⟨sign, rest, hrest, hmem, rfl⟩ := (hsigns _).1 hsign
    obtain ⟨rest', hrest', rfl⟩ := mem_ends_only.1 hequals
    obtain rfl : rest = '=' :: rest' := hrest'
    exact ⟨sign, rest', hrest, hmem, hbefore, fun hhead => hahead '=' hhead rfl, rfl⟩
  · rintro ⟨sign, rest, hrest, hmem, hbefore, hhead, rfl⟩
    refine ⟨c, ⟨hbefore, rfl⟩, _, (hsigns _).2 ⟨sign, _, hrest, hmem, rfl⟩, _,
      mem_ends_only.2 ⟨rest, rfl, rfl⟩, ?_, rfl⟩
    rintro x hx rfl
    exact hhead hx

theorem mem_ends_looseEquality {length : ℕ} {c after : Cursor} :
    after ∈ (looseEquality id).ends length c ↔ ∃ sign rest, c.rest = sign :: '=' :: rest ∧
      sign ∈ "=!".toList ∧ (∀ x ∈ c.before.head?, x ∉ comparisonSigns) ∧ rest.head? ≠ some '=' ∧
      after = c.past [sign, '='] rest := by
  refine mem_ends_looseEquality_of fun after => ?_
  simp only [id_eq, mem_ends_char, holds_among]
  rfl

theorem looseEquality_isSome_iff :
    ((looseEquality id).search line).isSome = true ↔ ComparesLoosely line := by
  rw [search_isSome_iff]
  unfold ComparesLoosely
  simp only [mem_ends_looseEquality, head?_before_at]
  constructor
  · rintro ⟨before, left, _, rfl, sign, rest, hleft, hsign, hbefore, hrest, -⟩
    exact ⟨before, sign, rest, by rw [show left = _ from hleft], hsign, hbefore, hrest⟩
  · rintro ⟨before, sign, rest, rfl, hsign, hbefore, hrest⟩
    exact ⟨before, _, _, rfl, sign, rest, rfl, hsign, hbefore, hrest, rfl⟩

/-! ## The console -/

theorem mem_ends_methods {length : ℕ} {c after : Cursor} :
    after ∈ (oneOf [literal "log", literal "debug", literal "info", literal "warn", literal "error",
      literal "trace"]).ends length c ↔
    ∃ method ∈ consoleMethods, ∃ rest, c.rest = method ++ rest ∧ after = c.past method rest := by
  unfold consoleMethods
  simp only [oneOf, mem_ends_alt, mem_ends_literal, List.exists_mem_cons_iff, List.not_mem_nil,
    false_and, exists_false, or_false]

theorem consolePattern_isSome_iff :
    (consolePattern.search line).isSome = true ↔ CallsConsole line := by
  have hword : Text.isWordChar 'c' = true := by decide +kernel
  rw [search_isSome_iff]
  unfold consolePattern CallsConsole call
  simp only [Pattern.sequence, mem_ends_seq, wordEdge, mem_ends_anchor, mem_ends_methods]
  constructor
  · rintro ⟨before, left, _, rfl, _, ⟨_, ⟨hedge, rfl⟩, _, hconsole, method, hmethod, rest, hrest, rfl⟩,
      _, hblanks, hopen⟩
    obtain ⟨rest₁, hrest₁, rfl⟩ := mem_ends_literal.1 hconsole
    obtain ⟨gap, rest₂, hrest₂, hgap, rfl⟩ := mem_ends_many.1 hblanks
    obtain ⟨rest₃, hrest₃, -⟩ := mem_ends_only.1 hopen
    simp only [holds_blank] at hgap
    obtain rfl : left = "console.".toList ++ rest₁ := hrest₁
    obtain rfl : rest₁ = method ++ rest := hrest
    obtain rfl : rest = gap ++ rest₂ := hrest₂
    obtain rfl : rest₂ = '(' :: rest₃ := hrest₃
    refine ⟨before, method, gap, rest₃, by simp, hmethod, hgap, ?_⟩
    have hafter := (atWordEdge_iff (x := 'c') rfl hword).1 hedge
    rwa [head?_before_at] at hafter
  · rintro ⟨before, method, gap, rest, rfl, hmethod, hgap, hbefore⟩
    have hedge : ∀ y ∈ (Cursor.at [] 0 before
        ("console.".toList ++ (method ++ (gap ++ '(' :: rest)))).before.head?,
        Text.isWordChar y = false := by
      rwa [head?_before_at]
    refine ⟨before, "console.".toList ++ (method ++ (gap ++ '(' :: rest)), _, by simp, _, ⟨_,
      ⟨(atWordEdge_iff (x := 'c') rfl hword).2 hedge, rfl⟩, _,
      mem_ends_literal.2 ⟨_, rfl, rfl⟩, method, hmethod, gap ++ '(' :: rest, rfl, rfl⟩, _,
      mem_ends_many.2 ⟨gap, '(' :: rest, rfl, ?_, rfl⟩, mem_ends_only.2 ⟨rest, rfl, rfl⟩⟩
    simpa only [holds_blank] using hgap

/-! ## The debugger -/

theorem mem_ends_semicolon {length : ℕ} {c after : Cursor} :
    after ∈ (optionalChar (.only ';')).ends length c ↔
      ∃ part rest, c.rest = part ++ rest ∧ (part = [] ∨ part = [';']) ∧ after = c.past part rest := by
  simp only [mem_ends_optionalChar, holds_only, exists_eq_right]

/-- At the end of a line nothing is left but blanks. -/
theorem isBlank_of_lastLineEnd {c : Cursor} (h : Anchor.holds c .lastLineEnd = true) :
    ∀ x ∈ c.rest, Text.isBlank x = true := by
  rcases holds_lastLineEnd.1 h with hrest | hrest
  · simp [hrest]
  · rw [hrest, List.forall_mem_singleton]
    decide

theorem debuggerPattern_isSome_iff :
    (debuggerPattern.search line).isSome = true ↔ StopsDebugger line := by
  refine search_textStart_isSome_iff.trans ?_
  unfold StopsDebugger
  simp only [Pattern.sequence, mem_ends_seq, mem_ends_anchor]
  constructor
  · rintro ⟨_, _, hfirst, _, hword, _, hsecond, _, hsemicolon, _, hthird, hend, rfl⟩
    obtain ⟨indent, rest, hline, hindent, rfl⟩ := mem_ends_many.1 hfirst
    obtain ⟨rest₁, hrest₁, rfl⟩ := mem_ends_literal.1 hword
    obtain ⟨gap, rest₂, hrest₂, hgap, rfl⟩ := mem_ends_many.1 hsecond
    obtain ⟨semicolon, rest₃, hrest₃, hone, rfl⟩ := mem_ends_semicolon.1 hsemicolon
    obtain ⟨after, rest₄, hrest₄, hafter, rfl⟩ := mem_ends_many.1 hthird
    simp only [holds_blank] at hindent hgap hafter
    obtain rfl : line = indent ++ rest := hline
    obtain rfl : rest = "debugger".toList ++ rest₁ := hrest₁
    obtain rfl : rest₁ = gap ++ rest₂ := hrest₂
    obtain rfl : rest₂ = semicolon ++ rest₃ := hrest₃
    obtain rfl : rest₃ = after ++ rest₄ := hrest₄
    exact ⟨indent, gap, semicolon, after ++ rest₄, by simp, hindent, hgap, hone,
      List.forall_mem_append.2 ⟨hafter, isBlank_of_lastLineEnd hend⟩⟩
  · rintro ⟨indent, gap, semicolon, after, rfl, hindent, hgap, hsemicolon, hafter⟩
    have hline : indent ++ "debugger".toList ++ gap ++ semicolon ++ after =
        indent ++ ("debugger".toList ++ (gap ++ (semicolon ++ (after ++ [])))) := by simp
    refine ⟨_, _, mem_ends_many.2 ⟨indent, _, hline, ?_, rfl⟩, _, mem_ends_literal.2 ⟨_, rfl, rfl⟩, _,
      mem_ends_many.2 ⟨gap, _, rfl, ?_, rfl⟩, _, mem_ends_semicolon.2 ⟨semicolon, _, rfl, hsemicolon, rfl⟩,
      _, mem_ends_many.2 ⟨after, _, rfl, ?_, rfl⟩, rfl, rfl⟩
    · simpa only [holds_blank] using hindent
    · simpa only [holds_blank] using hgap
    · simpa only [holds_blank] using hafter

end CodeReview.Rule
