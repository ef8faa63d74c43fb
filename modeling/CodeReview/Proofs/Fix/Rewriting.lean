/-
What each fix makes of a line. A declaration, a number and a loop are each rewritten in one place and the
rest of the line stays (`varToLet_cases`, `nameNumber_cases`, `forInToForOf_cases`); an equals sign is
added in every loose comparison, wherever it stands (`strictEquality_eq_strictFrom`).
-/
import CodeReview.Fix
import CodeReview.Proofs.Pattern.Counting
import CodeReview.Proofs.Rule.Numbers
import CodeReview.Proofs.Rule.Style
import Mathlib.Data.Bool.AllAny

namespace CodeReview.Fix

open Pattern Rule

variable {line : List Char}

/-! ## Declarations -/

/-- The first `var` before blanks becomes `let` and a space. It does not end a longer word, and where it
stands the pattern leads on for the first time. -/
theorem varToLet_cases (line : List Char) :
    (varToLet line = line ∧ Fix.varPattern.search line = none) ∨
    ∃ before gap rest, line = before ++ ("var".toList ++ gap) ++ rest ∧ gap ≠ [] ∧
      (∀ c ∈ gap, Text.isBlank c = true) ∧ (∀ c ∈ before.getLast?, Text.isWordChar c = false) ∧
      varToLet line = before ++ "let ".toList ++ rest ∧
      ∀ part left, line = part ++ left → part.length < before.length →
        Fix.varPattern.ends line.length (.at [] 0 part left) = [] := by
  unfold varToLet replaceFirst
  cases hsearch : Fix.varPattern.search line with
  | none => exact .inl ⟨rfl, rfl⟩
  | some found =>
    obtain ⟨-, hline⟩ := (splits_of_search hsearch).rest_eq
    have hstop := List.mem_of_head? (splits_of_search hsearch).stop
    unfold Fix.varPattern at hstop
    simp only [Pattern.sequence, mem_ends_seq, wordEdge, mem_ends_anchor] at hstop
    obtain ⟨_, ⟨hedge, rfl⟩, _, hvar, hgap⟩ := hstop
    obtain ⟨rest, hrest, rfl⟩ := mem_ends_literal.1 hvar
    obtain ⟨gap, left, hleft, hblank, hsome, hstop⟩ := mem_ends_oneOrMore.1 hgap
    simp only [holds_blank] at hblank
    obtain rfl : rest = gap ++ left := hleft
    refine .inr ⟨found.start.before.reverse, gap, left, ?_, hsome, hblank, ?_, ?_, ?_⟩
    · rw [hrest] at hline
      simpa using hline
    · rw [List.getLast?_reverse]
      exact (atWordEdge_iff (x := 'v') hrest (by decide +kernel)).1 hedge
    · dsimp only
      rw [hstop]
      rfl
    · intro part left' hsplit hlength
      rw [List.length_reverse] at hlength
      exact ends_eq_nil_of_search hsearch hsplit hlength

/-! ## Numbers -/

/-- The numbers that need no name, as they stand in lines. -/
def allowed : List (List Char) := allowedNumbers.map String.toList

/-- The number that is found first becomes a constant. -/
theorem nameNumber_of_firstNumber? {found : Found} (h : Detector.firstNumber? allowed line = some found) :
    nameNumber line = found.start.before.reverse ++ ("CONSTANT_".toList ++ found.text) ++ found.stop.rest := by
  unfold allowed at h
  unfold nameNumber
  rw [h]
  simp

/-- The first number that needs a name becomes a constant. -/
theorem nameNumber_cases (line : List Char) : nameNumber line = line ∨ ∃ before number rest,
    Detector.IsFirst Detector.IsNumber allowed line before number rest ∧
      nameNumber line = before ++ ("CONSTANT_".toList ++ number) ++ rest := by
  cases hfound : Detector.firstNumber? allowed line with
  | some found =>
    exact .inr ⟨_, _, _, (Detector.isFirst_of_firstNumber? hfound).1, nameNumber_of_firstNumber? hfound⟩
  | none =>
    unfold allowed at hfound
    unfold nameNumber
    rw [hfound]
    exact .inl rfl

/-! ## Loops -/

theorem mem_ends_keywords {length : ℕ} {c after : Cursor} :
    after ∈ (oneOf [literal "var", literal "let", literal "const"]).ends length c ↔
    ∃ keyword ∈ ["var".toList, "let".toList, "const".toList], ∃ rest, c.rest = keyword ++ rest ∧
      after = c.past keyword rest := by
  simp only [oneOf, mem_ends_alt, mem_ends_literal, List.exists_mem_cons_iff, List.not_mem_nil,
    false_and, exists_false, or_false]

/-- The keyword and the variable in the head of a loop over keys, with the gaps between the parts. -/
structure LoopHead where
  beforeParen : List Char
  afterParen : List Char
  keyword : List Char
  afterKeyword : List Char
  name : List Char
  afterName : List Char
  afterIn : List Char
  keyword_mem : keyword ∈ ["var".toList, "let".toList, "const".toList]
  isWordChar : ∀ c ∈ name, Text.isWordChar c = true
  isBlank : ∀ gap ∈ [beforeParen, afterParen, afterKeyword, afterName, afterIn],
    ∀ c ∈ gap, Text.isBlank c = true
  ne_nil : ∀ part ∈ [afterKeyword, name, afterName, afterIn], part ≠ []

namespace LoopHead

/-- The head of the loop, up to the object. -/
def overKeys (head : LoopHead) : List Char :=
  "for".toList ++ head.beforeParen ++ '(' :: head.afterParen ++ head.keyword ++ head.afterKeyword ++
    head.name ++ head.afterName ++ "in".toList ++ head.afterIn

/-- The head of a loop over values in its place. -/
def overValues (head : LoopHead) : List Char :=
  "for (".toList ++ head.keyword ++ ' ' :: head.name ++ " of ".toList

end LoopHead

/-- Where the head of a loop over keys leads, the keyword and the variable being remembered. -/
theorem ends_forInOpening {length : ℕ} {c after : Cursor}
    (h : after ∈ (forInOpening (.capture 1 ·) (.capture 2 ·)).ends length c) :
    ∃ head : LoopHead, c.rest = head.overKeys ++ after.rest ∧
      after.captures = (2, head.name) :: (1, head.keyword) :: c.captures := by
  unfold forInOpening forOpening call at h
  simp only [Pattern.sequence, mem_ends_seq, mem_ends_capture, mem_ends_keywords] at h
  obtain ⟨_, ⟨_, hfor, _, hgap, hopen⟩, _, hgap', _, ⟨_, ⟨keyword, hkeyword, rest₅, hrest₅, rfl⟩, rfl⟩, _,
    hgap₁, _, ⟨_, hname, rfl⟩, _, hgap₂, _, hin, hgap₃⟩ := h
  obtain ⟨rest₁, hrest₁, rfl⟩ := mem_ends_literal.1 hfor
  obtain ⟨gap, rest₂, hrest₂, hblank, rfl⟩ := mem_ends_many.1 hgap
  obtain ⟨rest₃, hrest₃, rfl⟩ := mem_ends_only.1 hopen
  obtain ⟨gap', rest₄, hrest₄, hblank', rfl⟩ := mem_ends_many.1 hgap'
  rw [remember_past] at hgap₁
  obtain ⟨gap₁, rest₆, hrest₆, hblank₁, hsome₁, rfl⟩ := mem_ends_oneOrMore.1 hgap₁
  obtain ⟨name, rest₇, hrest₇, hword, hsome, rfl⟩ := mem_ends_oneOrMore.1 hname
  rw [remember_past] at hgap₂
  obtain ⟨gap₂, rest₈, hrest₈, hblank₂, hsome₂, rfl⟩ := mem_ends_oneOrMore.1 hgap₂
  obtain ⟨rest₉, hrest₉, rfl⟩ := mem_ends_literal.1 hin
  obtain ⟨gap₃, rest, hrest, hblank₃, hsome₃, rfl⟩ := mem_ends_oneOrMore.1 hgap₃
  simp only [holds_blank] at hblank hblank' hblank₁ hblank₂ hblank₃
  simp only [holds_word] at hword
  obtain rfl : rest₁ = gap ++ rest₂ := hrest₂
  obtain rfl : rest₂ = '(' :: rest₃ := hrest₃
  obtain rfl : rest₃ = gap' ++ rest₄ := hrest₄
  obtain rfl : rest₄ = keyword ++ rest₅ := hrest₅
  obtain rfl : rest₅ = gap₁ ++ rest₆ := hrest₆
  obtain rfl : rest₆ = name ++ rest₇ := hrest₇
  obtain rfl : rest₇ = gap₂ ++ rest₈ := hrest₈
  obtain rfl : rest₈ = "in".toList ++ rest₉ := hrest₉
  obtain rfl : rest₉ = gap₃ ++ rest := hrest
  refine ⟨⟨gap, gap', keyword, gap₁, name, gap₂, gap₃, hkeyword, hword, ?_, ?_⟩, ?_, rfl⟩
  · simp only [List.forall_mem_cons, List.not_mem_nil, false_imp_iff, implies_true, and_true]
    exact ⟨hblank, hblank', hblank₁, hblank₂, hblank₃⟩
  · simp only [List.forall_mem_cons, List.not_mem_nil, false_imp_iff, implies_true, and_true]
    exact ⟨hsome₁, hsome, hsome₂, hsome₃⟩
  · rw [hrest₁]
    unfold LoopHead.overKeys
    simp

/-- The head of a loop over keys becomes that of a loop over values. -/
theorem forInToForOf_cases (line : List Char) : forInToForOf line = line ∨
    ∃ before head rest, line = before ++ LoopHead.overKeys head ++ rest ∧
      forInToForOf line = before ++ head.overValues ++ rest := by
  unfold forInToForOf replaceFirst
  cases hsearch : Fix.forInPattern.search line with
  | none => exact .inl rfl
  | some found =>
    obtain ⟨-, hline⟩ := (splits_of_search hsearch).rest_eq
    have hstop := List.mem_of_head? (splits_of_search hsearch).stop
    unfold Fix.forInPattern at hstop
    simp only [Pattern.sequence, mem_ends_seq, mem_ends_capture] at hstop
    obtain ⟨opened, hopened, _, ⟨_, hobject, rfl⟩, hclose⟩ := hstop
    obtain ⟨head, hrest, hcaptures⟩ := ends_forInOpening hopened
    obtain ⟨object, rest, hsplit, -, -, rfl⟩ := mem_ends_oneOrMore.1 hobject
    rw [remember_past] at hclose
    obtain ⟨left, hleft, hstop⟩ := mem_ends_only.1 hclose
    obtain rfl : rest = ')' :: left := hleft
    have hgroups : found.group 1 = head.keyword ∧ found.group 2 = head.name ∧ found.group 3 = object := by
      unfold Found.group Cursor.captured?
      rw [hstop, Cursor.past_captures, hcaptures]
      exact ⟨rfl, rfl, rfl⟩
    refine .inr ⟨found.start.before.reverse, head, object ++ ')' :: left, ?_, ?_⟩
    · rw [hrest, hsplit] at hline
      rwa [← List.append_assoc] at hline
    · dsimp only
      rw [hgroups.1, hgroups.2.1, hgroups.2.2, hstop]
      unfold LoopHead.overValues
      simp

/-! ## Comparisons -/

/-- A loose comparison begins with this character, `last` standing before it and `rest` after it. -/
def opensLoose (last : Option Char) (sign : Char) (rest : List Char) : Bool :=
  "=!".toList.contains sign && !last.any comparisonSigns.contains && rest.head? == some '=' &&
    rest.tail.head? != some '='

/-- The characters after `last` with an equals sign added in each loose comparison. -/
def strictFrom : Option Char → List Char → List Char
  | _, [] => []
  | last, x :: rest =>
    x :: (if opensLoose last x rest then ['='] else []) ++ strictFrom (some x) rest

theorem opensLoose_iff {last : Option Char} {sign : Char} {rest : List Char} :
    opensLoose last sign rest = true ↔ ∃ more, rest = '=' :: more ∧ sign ∈ "=!".toList ∧
      (∀ c ∈ last, c ∉ comparisonSigns) ∧ more.head? ≠ some '=' := by
  have hlast : (!last.any comparisonSigns.contains) = true ↔ ∀ c ∈ last, c ∉ comparisonSigns := by
    rw [Bool.not_eq_true', Option.any_eq_false]
    simp only [List.contains_eq_mem, decide_eq_false_iff_not]
    rfl
  unfold opensLoose
  rw [Bool.and_eq_true, Bool.and_eq_true, Bool.and_eq_true, hlast, beq_iff_eq, bne_iff_ne,
    List.contains_iff_mem]
  constructor
  · rintro ⟨⟨⟨hsign, hlast⟩, hhead⟩, htail⟩
    obtain ⟨more, rfl⟩ := List.head?_eq_some_iff.1 hhead
    exact ⟨more, rfl, hsign, hlast, htail⟩
  · rintro ⟨more, rfl, hsign, hlast, htail⟩
    exact ⟨⟨⟨hsign, hlast⟩, rfl⟩, htail⟩

/-- A loose comparison begins with one of the signs that none may stand behind. -/
theorem mem_comparisonSigns {sign : Char} (h : sign ∈ "=!".toList) : sign ∈ comparisonSigns := by
  rcases List.mem_pair.1 h with rfl | rfl <;> decide

theorem not_opensLoose_behind {sign x : Char} {rest : List Char} (h : sign ∈ comparisonSigns) :
    ¬opensLoose (some sign) x rest = true := fun hopens => by
  obtain ⟨-, -, -, hlast, -⟩ := opensLoose_iff.1 hopens
  exact hlast sign rfl h

/-- Where a loose comparison leads, its first sign being remembered. -/
theorem mem_ends_looseEquality_capture {length : ℕ} {c after : Cursor} :
    after ∈ (looseEquality (.capture 1 ·)).ends length c ↔ ∃ sign more,
      c.rest = sign :: '=' :: more ∧ opensLoose c.before.head? sign ('=' :: more) = true ∧
      after = ⟨'=' :: sign :: c.before, more, c.position + 2, (1, [sign]) :: c.captures⟩ := by
  have hsigns (after : Cursor) : after ∈ (Pattern.capture 1 (.char (.among "=!"))).ends length c ↔
      ∃ sign rest, c.rest = sign :: rest ∧ sign ∈ "=!".toList ∧
        after = { c.past [sign] rest with captures := (1, [sign]) :: c.captures } := by
    rw [mem_ends_capture]
    constructor
    · rintro ⟨_, hsign, rfl⟩
      obtain ⟨sign, rest, hrest, hmem, rfl⟩ := mem_ends_char.1 hsign
      exact ⟨sign, rest, hrest, holds_among.1 hmem, remember_past⟩
    · rintro ⟨sign, rest, hrest, hmem, rfl⟩
      exact ⟨_, mem_ends_char.2 ⟨sign, rest, hrest, holds_among.2 hmem, rfl⟩, remember_past.symm⟩
  rw [mem_ends_looseEquality_of hsigns]
  simp only [opensLoose_iff, List.cons.injEq, true_and, exists_eq_left', and_assoc]
  rfl

/-- Where a loose comparison begins, its sign and the next stay and an equals sign comes after them. -/
theorem strictFrom_of_opensLoose {last : Option Char} {sign : Char} {left : List Char}
    (h : opensLoose last sign ('=' :: left) = true) :
    strictFrom last (sign :: '=' :: left) = [sign] ++ ['=', '='] ++ strictFrom (some '=') left := by
  obtain ⟨-, -, hsign, -, -⟩ := opensLoose_iff.1 h
  rw [strictFrom, strictFrom, if_pos h, if_neg (not_opensLoose_behind (mem_comparisonSigns hsign))]
  rfl

theorem replaceFrom_looseEquality {length position fuel : ℕ} {before rest : List Char}
    {captures : List (ℕ × List Char)} (hfuel : rest.length < fuel) :
    (looseEquality (.capture 1 ·)).replaceFrom (fun found => found.group 1 ++ ['=', '=']) length fuel
      ⟨before, rest, position, captures⟩ = strictFrom before.head? rest := by
  -- a match takes two characters, so the induction is on the number of those that are left
  induction hlength : rest.length using Nat.strong_induction_on
    generalizing rest before position fuel captures with
  | _ n ih =>
  have hends {after : Cursor}
      (h : after ∈ (looseEquality (.capture 1 ·)).ends length ⟨before, rest, position, []⟩) :
      ∃ sign left, rest = sign :: '=' :: left ∧ opensLoose before.head? sign ('=' :: left) = true ∧
        after = ⟨'=' :: sign :: before, left, position + 2, [(1, [sign])]⟩ :=
    mem_ends_looseEquality_capture.1 h
  cases hplaces : (looseEquality (.capture 1 ·)).ends length ⟨before, rest, position, []⟩ with
  | nil =>
    cases rest with
    | nil => exact replaceFrom_nil
    | cons x rest =>
      rw [List.length_cons] at hfuel hlength
      have hcloses : ¬opensLoose before.head? x rest = true := by
        intro hopens
        obtain ⟨left, rfl, -⟩ := opensLoose_iff.1 hopens
        have hmem : _ ∈ (looseEquality (.capture 1 ·)).ends length ⟨before, x :: '=' :: left, position, []⟩ :=
          mem_ends_looseEquality_capture.2 ⟨x, left, rfl, hopens, rfl⟩
        rw [hplaces] at hmem
        cases hmem
      rw [replaceFrom_of_nil [] hplaces, ih rest.length (by omega) (by omega) rfl, strictFrom,
        if_neg hcloses]
      rfl
  | cons stop more =>
    obtain ⟨sign, left, rfl, hopens, hstop⟩ := hends (hplaces ▸ List.mem_cons_self)
    obtain ⟨fuel, rfl⟩ := Nat.exists_eq_succ_of_ne_zero (Nat.ne_zero_of_lt hfuel)
    simp only [List.length_cons] at hfuel hlength
    have hhead : ((looseEquality (.capture 1 ·)).ends length
        ⟨before, sign :: '=' :: left, position, []⟩).head? = some stop := by
      rw [hplaces, List.head?_cons]
    rw [replaceFrom_of_head? hhead (by rw [hstop]; simp), hstop, ih left.length (by omega) (by omega) rfl,
      strictFrom_of_opensLoose hopens]
    rfl

/-- The fix of comparisons adds an equals sign in each. -/
theorem strictEquality_eq_strictFrom (line : List Char) :
    strictEquality line = strictFrom none line := by
  unfold strictEquality
  rw [replaceAll_eq_replaceFrom]
  exact replaceFrom_looseEquality (Nat.lt_succ_self _)

/-! ### Equals signs -/

section Signs

variable {last : Option Char} {before part rest : List Char}

theorem strictFrom_cons_of_not {x : Char} (h : ¬opensLoose last x rest = true) :
    strictFrom last (x :: rest) = x :: strictFrom (some x) rest := by
  rw [strictFrom, if_neg h]
  rfl

theorem strictFrom_cons {x : Char} (h : opensLoose last x rest = true) :
    strictFrom last (x :: rest) = x :: '=' :: strictFrom (some x) rest := by
  rw [strictFrom, if_pos h]
  rfl

theorem head?_strictFrom (last : Option Char) (line : List Char) :
    (strictFrom last line).head? = line.head? := by
  cases line with
  | nil => rfl
  | cons x rest => rfl

/-- A part without an equals sign stands where it stood. -/
theorem eq_append_of_strictFrom_eq (h : strictFrom last line = part ++ rest) (hpart : '=' ∉ part) :
    ∃ more, line = part ++ more := by
  induction part generalizing line last with
  | nil => exact ⟨line, rfl⟩
  | cons y part ih =>
    rw [List.mem_cons, not_or] at hpart
    cases line with
    | nil => cases h
    | cons x more =>
      by_cases hopens : opensLoose last x more = true
      · rw [strictFrom_cons hopens] at h
        obtain ⟨rfl, htail⟩ := List.cons.inj h
        cases part with
        | nil => exact ⟨more, rfl⟩
        | cons z part =>
          obtain ⟨rfl, -⟩ := List.cons.inj htail
          exact absurd List.mem_cons_self hpart.2
      · rw [strictFrom_cons_of_not hopens] at h
        obtain ⟨rfl, htail⟩ := List.cons.inj h
        obtain ⟨more, rfl⟩ := ih htail hpart.2
        exact ⟨more, rfl⟩

theorem getLast?_cons_or (x : Char) (l : List Char) (last : Option Char) :
    (x :: l).getLast?.or last = l.getLast?.or (some x) := by
  rw [List.getLast?_cons]
  cases l.getLast? <;> rfl

/-- Where the rewritten line is cut in two, the line is cut behind the same character, unless the cut is
before or behind a sign that was added: there it is behind a sign of comparison and before an equals
sign. -/
theorem cut_of_strictFrom_eq (h : strictFrom last line = before ++ rest)
    (hcut : rest.head? = some '=' → ∀ c ∈ before.getLast?.or last, c ∉ comparisonSigns) :
    ∃ front more, line = front ++ more ∧ front.getLast? = before.getLast? ∧
      strictFrom (front.getLast?.or last) more = rest := by
  induction line generalizing before last with
  | nil =>
    obtain ⟨rfl, rfl⟩ := List.append_eq_nil_iff.1 h.symm
    exact ⟨[], [], rfl, rfl, rfl⟩
  | cons x left ih =>
    cases before with
    | nil => exact ⟨[], x :: left, rfl, rfl, h⟩
    | cons y before =>
      by_cases hopens : opensLoose last x left = true
      · obtain ⟨more, rfl, hx, -⟩ := opensLoose_iff.1 hopens
        have hsign : x ∈ comparisonSigns := mem_comparisonSigns hx
        rw [strictFrom_cons hopens] at h
        obtain ⟨rfl, htail⟩ := List.cons.inj h
        cases before with
        | nil =>
          -- the cut is before the sign that was added
          obtain rfl : '=' :: strictFrom (some x) ('=' :: more) = rest := htail
          exact absurd hsign (hcut rfl x rfl)
        | cons z before =>
          obtain ⟨rfl, hrest⟩ := List.cons.inj htail
          cases before with
          | nil =>
            -- the cut is behind the sign that was added
            obtain rfl : strictFrom (some x) ('=' :: more) = rest := hrest
            exact absurd (by decide) (hcut (head?_strictFrom _ _) '=' rfl)
          | cons w before =>
            obtain ⟨front, more', hfront, hlast, hmore⟩ := ih hrest fun hhead => by
              simpa [List.getLast?_cons] using hcut hhead
            refine ⟨x :: front, more', by rw [hfront]; rfl, ?_, ?_⟩
            · rw [List.getLast?_cons, hlast]
              simp [List.getLast?_cons]
            · rw [getLast?_cons_or, hmore]
      · rw [strictFrom_cons_of_not hopens] at h
        obtain ⟨rfl, htail⟩ := List.cons.inj h
        obtain ⟨front, more, rfl, hlast, hmore⟩ := ih htail (by rwa [getLast?_cons_or] at hcut)
        refine ⟨x :: front, more, rfl, by rw [List.getLast?_cons, List.getLast?_cons, hlast], ?_⟩
        rw [getLast?_cons_or, hmore]

/-- Such a part stands behind the same character, too. -/
theorem split_of_strictFrom_eq (h : strictFrom last line = before ++ part ++ rest) (hsome : part ≠ [])
    (hpart : '=' ∉ part) : ∃ front more, line = front ++ part ++ more ∧ front.getLast? = before.getLast? := by
  rw [List.append_assoc] at h
  obtain ⟨first, part, rfl⟩ := List.exists_cons_of_ne_nil hsome
  obtain ⟨front, left, rfl, hlast, hleft⟩ := cut_of_strictFrom_eq h fun hhead =>
    absurd (List.mem_cons.2 (.inl (Option.some.inj hhead).symm)) hpart
  obtain ⟨more, rfl⟩ := eq_append_of_strictFrom_eq hleft hpart
  exact ⟨front, more, (List.append_assoc ..).symm, hlast⟩

theorem strictFrom_eq_self (h : '=' ∉ strictFrom last line) : strictFrom last line = line := by
  obtain ⟨more, hmore⟩ := eq_append_of_strictFrom_eq (List.append_nil _).symm h
  induction line generalizing last with
  | nil => rfl
  | cons x left ih =>
    by_cases hopens : opensLoose last x left = true
    · rw [strictFrom_cons hopens] at h
      exact absurd (by simp) h
    · rw [strictFrom_cons_of_not hopens] at h hmore ⊢
      rw [List.mem_cons, not_or] at h
      rw [ih h.2 (List.cons.inj hmore).2]

/-- No comparison is loose any more. -/
theorem not_opens_of_strictFrom_eq {sign : Char} (h : strictFrom last line = before ++ sign :: '=' :: rest)
    (hsign : sign ∈ "=!".toList) (hlast : ∀ c ∈ before.getLast?.or last, c ∉ comparisonSigns) :
    rest.head? = some '=' := by
  obtain ⟨front, more, rfl, hsame, hmore⟩ := cut_of_strictFrom_eq h fun _ => hlast
  rw [← hsame] at hlast
  cases more with
  | nil => cases hmore
  | cons x left =>
    by_cases hopens : opensLoose (front.getLast?.or last) x left = true
    · -- the sign that was added stands behind the first
      obtain ⟨more, rfl, -⟩ := opensLoose_iff.1 hopens
      rw [strictFrom_cons hopens] at hmore
      obtain ⟨rfl, htail⟩ := List.cons.inj hmore
      obtain ⟨-, rfl⟩ := List.cons.inj htail
      exact head?_strictFrom _ _
    · -- the first sign and the next stood there, so it would have opened a loose comparison
      rw [strictFrom_cons_of_not hopens] at hmore
      obtain ⟨rfl, htail⟩ := List.cons.inj hmore
      have hhead := head?_strictFrom (some x) left
      rw [htail] at hhead
      obtain ⟨more, rfl⟩ := List.head?_eq_some_iff.1 hhead.symm
      rw [strictFrom_cons_of_not (not_opensLoose_behind (mem_comparisonSigns hsign))] at htail
      obtain ⟨-, rfl⟩ := List.cons.inj htail
      rw [head?_strictFrom]
      by_contra hmore
      exact hopens (opensLoose_iff.2 ⟨more, rfl, hsign, hlast, hmore⟩)

end Signs

end CodeReview.Fix
