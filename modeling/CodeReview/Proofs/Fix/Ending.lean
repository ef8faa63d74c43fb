/-
Why rounds of fixes come to an end. A line has a rank, which is nothing for a comment and else grows with the
words that a fix may take out of the line and with its being a loose comparison. Every fix that changes a
line lowers its rank (`rank_lt_of_suggest?`), so what is counted in a round is taken off the ranks of the
lines (`sum_rank_mendLines`), and after some rounds there is nothing to count (`rounds_end`).
-/
import CodeReview.Proofs.Fix.Lines
import CodeReview.Proofs.Fix.Naming
import CodeReview.Proofs.Fix.Settling
import CodeReview.Proofs.Rule.Analysis

namespace CodeReview.Fix

open Rule
open Text (runs isWordChar)

variable {line fixed text before rest : List Char} {rule : String} {fixer : List Char → List Char}
  {issues : List Issue}

/-! ## Words -/

/-- A word that a fix may take out of a line: `var`, `in` or a number. -/
def isFixable (word : List Char) : Bool :=
  word == "var".toList || word == "in".toList || word.all Text.isDigit

/-- How many words there are in a line that a fix may take out of it. -/
def fixableWords (line : List Char) : ℕ := (runs isWordChar line).countP isFixable

/-- The words that fixes take out of declarations and loops and those that they put in their place. -/
def tradedWords : List (List Char) := ["var".toList, "let".toList, "in".toList, "of".toList]

/-- The characters part the words before them from those behind. -/
structure IsBreak (part : List Char) : Prop where
  ne_nil : part ≠ []
  apart : ∀ c ∈ part, isWordChar c = false

theorem isBreak_of_isBlank {gap : List Char} (hsome : gap ≠ []) (h : ∀ c ∈ gap, Text.isBlank c = true) :
    IsBreak gap := ⟨hsome, fun c hc => Text.isWordChar_of_isBlank (h c hc)⟩

theorem isBreak_space : IsBreak [' '] :=
  isBreak_of_isBlank (List.cons_ne_nil _ _) (List.all_iff_forall_prop.1 (by decide))

theorem runs_append_isBreak {part : List Char} (front : List Char) (h : IsBreak part) (rest : List Char) :
    runs isWordChar (front ++ (part ++ rest)) = runs isWordChar front ++ runs isWordChar rest :=
  Text.runs_append_break front h.ne_nil h.apart

theorem runs_tradedWord {word : List Char} (h : word ∈ tradedWords) : runs isWordChar word = [word] := by
  have hall : ∀ word ∈ tradedWords, word ≠ [] ∧ word.all isWordChar = true := by decide +kernel
  obtain ⟨hsome, hword⟩ := hall word h
  exact Text.runs_eq_singleton hsome (List.all_eq_true.1 hword)

theorem isFixable_name (number : List Char) : isFixable ("CONSTANT_".toList ++ number) = false := by
  unfold isFixable
  rw [Bool.or_eq_false_iff, Bool.or_eq_false_iff]
  exact ⟨⟨rfl, rfl⟩, List.all_eq_false.2 ⟨'C', by simp, by decide⟩⟩

theorem fixableWords_of_runs {front back : List (List Char)} {old new : List Char}
    (hline : runs isWordChar line = front ++ old :: back) (hfixed : runs isWordChar fixed = front ++ new :: back)
    (hold : isFixable old = true) (hnew : isFixable new = false) :
    fixableWords fixed + 1 = fixableWords line := by
  unfold fixableWords
  rw [hline, hfixed, List.countP_append, List.countP_append, List.countP_cons_of_pos hold,
    List.countP_cons_of_neg (Bool.eq_false_iff.1 hnew), Nat.add_assoc]

/-- A declaration has one `var` less. -/
theorem fixableWords_varToLet (h : varToLet line ≠ line) :
    fixableWords (varToLet line) + 1 = fixableWords line := by
  rcases varToLet_cases line with ⟨hsame, -⟩ | ⟨before, gap, rest, hline, hsome, hgap, hedge, hfixed, -⟩
  · exact absurd hsame h
  have hruns (word : List Char) (hword : word ∈ tradedWords) {gap : List Char} (hgap : IsBreak gap) :
      runs isWordChar (before ++ (word ++ gap) ++ rest) =
        runs isWordChar before ++ word :: runs isWordChar rest := by
    rw [List.append_assoc, Text.runs_append_of_getLast? hedge, List.append_assoc, runs_append_isBreak _ hgap,
      runs_tradedWord hword]
    rfl
  have hvar := hruns "var".toList (by decide) (isBreak_of_isBlank hsome hgap)
  have hlet := hruns "let".toList (by decide) isBreak_space
  rw [← hline] at hvar
  exact fixableWords_of_runs hvar (hfixed ▸ hlet) (by decide) (by decide)

/-- A line has one number less when one has a name. -/
theorem fixableWords_nameNumber (h : nameNumber line ≠ line) :
    fixableWords (nameNumber line) + 1 = fixableWords line := by
  rcases nameNumber_cases line with hsame | ⟨before, number, rest, hfirst, hfixed⟩
  · exact absurd hsame h
  have hrun := hfirst.needsName.run
  have hnumber : isFixable number = true := by
    unfold isFixable
    rw [List.all_eq_true.2 hfirst.needsName.integer.digits, Bool.or_true]
  exact fixableWords_of_runs (hfirst.eq ▸ hrun.runs_eq) (hfixed ▸ (isRun_name hrun).runs_eq) hnumber
    (isFixable_name number)

theorem isBreak_paren {gap gap' : List Char} (h : ∀ c ∈ gap, Text.isBlank c = true)
    (h' : ∀ c ∈ gap', Text.isBlank c = true) : IsBreak (gap ++ '(' :: gap') := by
  refine ⟨by simp, fun c hc => ?_⟩
  rcases List.mem_append.1 hc with hc | hc
  · exact Text.isWordChar_of_isBlank (h c hc)
  · rcases List.mem_cons.1 hc with rfl | hc
    · decide +kernel
    · exact Text.isWordChar_of_isBlank (h' c hc)

/-- The words in the head of a loop and around it. -/
theorem runs_loop (before keyword name word rest : List Char) {gap gap₁ gap₂ gap₃ : List Char}
    (hword : word ∈ tradedWords) (hgap : IsBreak gap)
    (hgap₁ : IsBreak gap₁) (hgap₂ : IsBreak gap₂) (hgap₃ : IsBreak gap₃) :
    runs isWordChar (before ++ "for".toList ++
        (gap ++ (keyword ++ (gap₁ ++ (name ++ (gap₂ ++ (word ++ (gap₃ ++ rest)))))))) =
      (runs isWordChar (before ++ "for".toList) ++ (runs isWordChar keyword ++ runs isWordChar name)) ++
        word :: runs isWordChar rest := by
  rw [runs_append_isBreak _ hgap, runs_append_isBreak _ hgap₁, runs_append_isBreak _ hgap₂,
    runs_append_isBreak _ hgap₃, runs_tradedWord hword]
  simp

/-- A loop over values has one `in` less than the loop over keys. -/
theorem fixableWords_forInToForOf (h : forInToForOf line ≠ line) :
    fixableWords (forInToForOf line) + 1 = fixableWords line := by
  rcases forInToForOf_cases line with hsame | ⟨before, head, rest, hline, hfixed⟩
  · exact absurd hsame h
  have hgap (gap : List Char) (hblank : gap ∈ [head.beforeParen, head.afterParen, head.afterKeyword,
      head.afterName, head.afterIn]) (hsome : gap ∈ [head.afterKeyword, head.name, head.afterName,
      head.afterIn]) : IsBreak gap := isBreak_of_isBlank (head.ne_nil gap hsome) (head.isBlank gap hblank)
  have hopen : IsBreak (head.beforeParen ++ '(' :: head.afterParen) :=
    isBreak_paren (head.isBlank head.beforeParen (by simp)) (head.isBlank head.afterParen (by simp))
  have hopen' : IsBreak ([' '] ++ '(' :: []) := isBreak_paren (List.all_iff_forall_prop.1 (by decide)) nofun
  have hkeys := runs_loop before head.keyword head.name "in".toList rest (by decide) hopen
    (hgap head.afterKeyword (by simp) (by simp)) (hgap head.afterName (by simp) (by simp))
    (hgap head.afterIn (by simp) (by simp))
  have hvalues := runs_loop before head.keyword head.name "of".toList rest (by decide) hopen'
    isBreak_space isBreak_space isBreak_space
  have hline' : line = before ++ "for".toList ++ ((head.beforeParen ++ '(' :: head.afterParen) ++ (head.keyword ++
      (head.afterKeyword ++ (head.name ++ (head.afterName ++ ("in".toList ++ (head.afterIn ++ rest))))))) := by
    rw [hline]
    unfold LoopHead.overKeys
    simp
  have hfixed' : forInToForOf line = before ++ "for".toList ++ (([' '] ++ '(' :: []) ++ (head.keyword ++
      ([' '] ++ (head.name ++ ([' '] ++ ("of".toList ++ ([' '] ++ rest))))))) := by
    rw [hfixed]
    unfold LoopHead.overValues
    simp
  rw [← hline'] at hkeys
  rw [← hfixed'] at hvalues
  exact fixableWords_of_runs hkeys hvalues (by decide) (by decide)

/-- Equals signs that are added part no words. -/
theorem runs_strictFrom (front line : List Char) :
    runs isWordChar (front ++ strictFrom front.getLast? line) = runs isWordChar (front ++ line) := by
  induction line generalizing front with
  | nil => rfl
  | cons x rest ih =>
    have hrest := ih (front ++ [x])
    rw [List.getLast?_append_of_ne_nil _ (List.cons_ne_nil _ _), List.getLast?_singleton, List.append_assoc,
      List.append_assoc, List.singleton_append, List.singleton_append] at hrest
    by_cases hopens : opensLoose front.getLast? x rest = true
    · obtain ⟨-, -, hsign, -, -⟩ := opensLoose_iff.1 hopens
      have hsigns : ∀ c ∈ "=!".toList, isWordChar c = false := List.all_iff_forall_prop.1 (by decide +kernel)
      rw [strictFrom_cons hopens, Text.runs_append_cons _ _ (hsigns x hsign),
        Text.runs_cons_of_not _ (hsigns '=' (by decide)), ← Text.runs_append_cons _ _ (hsigns x hsign), hrest]
    · rw [strictFrom_cons_of_not hopens, hrest]

theorem fixableWords_strictEquality (line : List Char) :
    fixableWords (strictEquality line) = fixableWords line := by
  have hruns := runs_strictFrom [] line
  rw [List.nil_append, List.nil_append, List.getLast?_nil] at hruns
  unfold fixableWords
  rw [strictEquality_eq_strictFrom, hruns]

/-! ## Loose comparisons -/

/-- One for a loose comparison. -/
def looseness (line : List Char) : ℕ := ((looseEquality id).occursIn line).toNat

theorem looseness_eq_one_iff : looseness line = 1 ↔ ComparesLoosely line := by
  rw [← looseEquality_isSome_iff]
  unfold looseness Pattern.occursIn
  cases ((looseEquality id).search line).isSome <;> simp

theorem looseness_le_of_keeps (h : Keeps line fixed) : looseness fixed ≤ looseness line := by
  have hle : looseness fixed ≤ 1 := Bool.toNat_le _
  rcases Nat.le_one_iff_eq_zero_or_eq_one.1 hle with hfixed | hfixed
  · rw [hfixed]
    exact Nat.zero_le _
  · rw [hfixed, looseness_eq_one_iff.2 (h.comparesLoosely (looseness_eq_one_iff.1 hfixed))]

/-- An equals sign is added to loose comparisons only. -/
theorem comparesLoosely_of_strictFrom_ne (front : List Char) (h : strictFrom front.getLast? line ≠ line) :
    ComparesLoosely (front ++ line) := by
  induction line generalizing front with
  | nil => exact absurd rfl h
  | cons x rest ih =>
    by_cases hopens : opensLoose front.getLast? x rest = true
    · obtain ⟨more, rfl, hsign, hlast, hmore⟩ := opensLoose_iff.1 hopens
      exact ⟨front, x, more, rfl, hsign, hlast, hmore⟩
    · have hlast : (front ++ [x]).getLast? = some x := List.getLast?_concat
      have hcompares := ih (front ++ [x]) fun hsame => h (by rw [strictFrom_cons_of_not hopens, ← hlast, hsame])
      rwa [List.append_assoc] at hcompares

theorem looseness_strictEquality (h : strictEquality line ≠ line) :
    looseness (strictEquality line) + 1 = looseness line := by
  have hcompares : ComparesLoosely line := by
    rw [strictEquality_eq_strictFrom] at h
    exact comparesLoosely_of_strictFrom_ne [] h
  have hnone : looseness (strictEquality line) ≠ 1 :=
    fun hone => not_comparesLoosely_strictEquality line (looseness_eq_one_iff.1 hone)
  have hle : looseness (strictEquality line) ≤ 1 := Bool.toNat_le _
  rw [looseness_eq_one_iff.2 hcompares]
  omega

/-! ## Ranks -/

/-- How much there is to fix in a line, at most: nothing in a comment, and else one for making a comment of
it and one for each word and for the comparisons. -/
def rank (line : List Char) : ℕ := if isComment line then 0 else fixableWords line + looseness line + 1

/-- A fix takes something out of a line, or makes a comment of it. -/
theorem lowers_fixer (h : fixer? rule = some fixer) (hchanges : fixer line ≠ line) :
    isComment (fixer line) = true ∨
      fixableWords (fixer line) + looseness (fixer line) < fixableWords line + looseness line := by
  unfold fixer? at h
  split_ifs at h
  · obtain rfl := Option.some.inj h
    have hwords := fixableWords_varToLet hchanges
    have hloose := looseness_le_of_keeps (keeps_varToLet line)
    exact .inr (by omega)
  · obtain rfl := Option.some.inj h
    have hwords := fixableWords_strictEquality line
    have hloose := looseness_strictEquality hchanges
    exact .inr (by omega)
  · obtain rfl := Option.some.inj h
    exact .inl (isComment_commentOut line)
  · obtain rfl := Option.some.inj h
    exact .inl (isComment_commentOut line)
  · obtain rfl := Option.some.inj h
    have hwords := fixableWords_nameNumber hchanges
    have hloose := looseness_le_of_keeps (keeps_nameNumber line)
    exact .inr (by omega)
  · obtain rfl := Option.some.inj h
    have hwords := fixableWords_forInToForOf hchanges
    have hloose := looseness_le_of_keeps (keeps_forInToForOf line)
    exact .inr (by omega)

/-- A line that is no comment ranks lower when it is mended. -/
theorem rank_lt_of_suggest? (hline : isComment line = false) (h : suggest? line rule = some fixed) :
    rank fixed < rank line := by
  have hchanges := ne_of_suggest? h
  unfold suggest? at h
  split at h
  · cases h
  · next fixer hfixer =>
    dsimp only at h
    split at h
    · cases h
    obtain rfl := Option.some.inj h
    unfold rank
    rw [hline, if_neg Bool.false_ne_true]
    rcases lowers_fixer hfixer hchanges with hcomment | hlower
    · rw [if_pos hcomment]
      exact Nat.succ_pos _
    · split_ifs <;> omega

/-- What is counted for a line is taken off its rank. -/
theorem rank_foldl_mendLine (line : List Char) (rules : List String) :
    rank (rules.foldl mendLine line) + timesMended line rules ≤ rank line := by
  induction rules generalizing line with
  | nil => exact Nat.le_refl _
  | cons rule rules ih =>
    have hstep : rank (mendLine line rule) + (isMendedFor line rule).toNat ≤ rank line := by
      rcases mendLine_cases line rule with ⟨hnone, hsame⟩ | ⟨hmended, hline, hfixed⟩
      · rw [hnone, hsame]
        exact Nat.le_refl _
      · rw [hmended]
        exact rank_lt_of_suggest? hline hfixed
    have hrest := ih (mendLine line rule)
    rw [List.foldl_cons, timesMended]
    omega

/-- A line for which nothing is counted is as it was. -/
theorem foldl_mendLine_of_timesMended (rules : List String) (h : timesMended line rules = 0) :
    rules.foldl mendLine line = line := by
  induction rules generalizing line with
  | nil => rfl
  | cons rule rules ih =>
    rw [timesMended, Nat.add_eq_zero_iff, Bool.toNat_eq_zero] at h
    rcases mendLine_cases line rule with ⟨-, hsame⟩ | ⟨hmended, -⟩
    · rw [hsame] at h
      rw [List.foldl_cons, hsame]
      exact ih h.2
    · exact absurd hmended (Bool.eq_false_iff.1 h.1)

/-! ## Texts -/

/-- How much there is to fix in a text, at most. -/
def effort (text : List Char) : ℕ := ((Text.lines text).map rank).sum

/-- What is counted for lines is taken off their ranks. -/
theorem sum_rank_mendLines (lines : List (List Char)) (rules : ℕ → List String) :
    ((mendLines lines rules).map rank).sum + timesMendedAll lines rules ≤ (lines.map rank).sum := by
  induction lines generalizing rules with
  | nil => exact Nat.le_refl 0
  | cons line lines ih =>
    have hline := rank_foldl_mendLine line (rules 0)
    have hlines := ih fun i => rules (i + 1)
    unfold mendLines timesMendedAll at hlines ⊢
    dsimp only at hlines
    rw [List.mapIdx_cons, List.mapIdx_cons, List.map_cons, List.map_cons, List.sum_cons, List.sum_cons,
      List.sum_cons]
    omega

theorem mendLines_of_timesMendedAll {lines : List (List Char)} {rules : ℕ → List String}
    (h : timesMendedAll lines rules = 0) : mendLines lines rules = lines := by
  induction lines generalizing rules with
  | nil => rfl
  | cons line lines ih =>
    unfold timesMendedAll at h
    rw [List.mapIdx_cons, List.sum_cons, Nat.add_eq_zero_iff] at h
    have hlines : mendLines lines (fun i => rules (i + 1)) = lines := ih h.2
    unfold mendLines at hlines ⊢
    rw [List.mapIdx_cons, foldl_mendLine_of_timesMended _ h.1, hlines]

/-- Fixes for issues whose lines are numbered take what they count off the effort, and count nothing exactly
if they leave the text as it is. -/
theorem effort_of_apply {count : ℕ} (h : ∀ issue ∈ issues, (numberOf? issue).isSome = true)
    (happly : apply text issues = .ok (fixed, count)) :
    effort fixed + count ≤ effort text ∧ (count = 0 ↔ fixed = text) := by
  obtain ⟨rfl, rfl⟩ := Prod.mk.inj (Except.ok.inj ((apply_of_numbered text h).symm.trans happly))
  have hranks := sum_rank_mendLines (Text.lines text) (rulesAt issues)
  have hlines := lines_unlines_mendLines text (rulesAt issues)
  have heffort : effort (Text.unlines (mendLines (Text.lines text) (rulesAt issues))) +
      timesMendedAll (Text.lines text) (rulesAt issues) ≤ effort text := by
    unfold effort
    rwa [hlines]
  refine ⟨heffort, fun hnone => ?_, fun hsame => ?_⟩
  · rw [mendLines_of_timesMendedAll hnone, Text.unlines_lines]
  · rw [hsame] at heffort
    omega

/-! ## Rounds -/

/-- A round: a text is analyzed and fixed for what was found. -/
def round (file : String) (text : List Char) : Except Fault (List Char × ℕ) := do
  let found ← (Catalog.standard.analyze (fun _ => true) file text ()).result
  apply text (found.map Finding.toIssue)

/-- Some rounds, each of the text that the round before it left. -/
def rounds (file : String) : ℕ → List Char → Except Fault (List Char)
  | 0, text => .ok text
  | n + 1, text => do
    let (fixed, _) ← round file text
    rounds file n fixed

theorem numberOf?_toIssue (found : List Finding) :
    ∀ issue ∈ found.map Finding.toIssue, (numberOf? issue).isSome = true := by
  intro issue hissue
  obtain ⟨f, -, rfl⟩ := List.mem_map.1 hissue
  rfl

/-- A round does not fail. It takes what it counts off the effort, and a round that counts nothing leaves the
text as it is. -/
theorem round_spec (file : String) (text : List Char) : ∃ fixed count, round file text = .ok (fixed, count) ∧
    effort fixed + count ≤ effort text ∧ (count = 0 → fixed = text) := by
  have hnumbered := numberOf?_toIssue (Catalog.standard.findings (fun _ => true) text)
  have happly := apply_of_numbered text hnumbered
  obtain ⟨heffort, hnone⟩ := effort_of_apply hnumbered happly
  refine ⟨_, _, ?_, heffort, hnone.1⟩
  unfold round
  exact Result.bind_eq_ok_iff.2 ⟨_, Catalog.result_analyze .., happly⟩

/-- After some rounds, no more than there is effort, there is nothing left to count. -/
theorem exists_rounds (file : String) (text : List Char) : ∃ n ≤ effort text, ∃ final,
    rounds file n text = .ok final ∧ round file final = .ok (final, 0) := by
  induction heffort : effort text using Nat.strong_induction_on generalizing text with
  | _ k ih =>
  obtain ⟨fixed, count, hround, hless, hnone⟩ := round_spec file text
  rcases Nat.eq_zero_or_pos count with rfl | hcount
  · obtain rfl := hnone rfl
    exact ⟨0, Nat.zero_le _, fixed, rfl, hround⟩
  · obtain ⟨n, hn, final, hrounds, hfinal⟩ := ih (effort fixed) (by omega) fixed rfl
    refine ⟨n + 1, by omega, final, ?_, hfinal⟩
    rw [rounds]
    exact Result.bind_eq_ok_iff.2 ⟨_, hround, hrounds⟩

/-- What is counted has been changed, and rounds of fixes come to an end. The fixes for issues whose lines are
numbered count something exactly if they change the text; and any text comes after some rounds, no more than
there is effort, to one for which nothing is counted. -/
theorem rounds_end (file : String) (text : List Char) (issues : List Issue)
    (h : ∀ issue ∈ issues, (numberOf? issue).isSome = true) :
    (∃ fixed count, apply text issues = .ok (fixed, count) ∧ (0 < count ↔ fixed ≠ text)) ∧
      ∃ n ≤ effort text, ∃ final, rounds file n text = .ok final ∧ round file final = .ok (final, 0) := by
  refine ⟨⟨_, _, apply_of_numbered text h, ?_⟩, exists_rounds file text⟩
  rw [Nat.pos_iff_ne_zero, ne_eq, ne_eq, (effort_of_apply h (apply_of_numbered text h)).2]

/-- A line with two numbers, of which a round gives one a name. -/
theorem rounds_end_of_two_numbers :
    let issues : List Issue := [⟨.int 1, .null, .null, "info", "no-magic-numbers", "style"⟩]
    (∀ issue ∈ issues, (numberOf? issue).isSome = true) ∧
      (∃ fixed count, apply "a = 5 + 7".toList issues = .ok (fixed, count) ∧
        (0 < count ↔ fixed ≠ "a = 5 + 7".toList)) ∧
      ∃ n ≤ 3, ∃ final, rounds "a.js" n "a = 5 + 7".toList = .ok final ∧ round "a.js" final = .ok (final, 0) := by
  intro issues
  have hnumbered : ∀ issue ∈ issues, (numberOf? issue).isSome = true := List.all_iff_forall_prop.1 (by decide)
  have heffort : effort "a = 5 + 7".toList = 3 := by decide +kernel
  obtain ⟨hcounts, hrounds⟩ := rounds_end "a.js" "a = 5 + 7".toList issues hnumbered
  rw [heffort] at hrounds
  exact ⟨hnumbered, hcounts, hrounds⟩

example : rounds "a.js" 2 "a = 5 + 7".toList = .ok "a = CONSTANT_5 + CONSTANT_7".toList := by decide +kernel

end CodeReview.Fix
