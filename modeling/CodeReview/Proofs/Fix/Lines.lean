/-
Fixes line by line. A run of fixes goes through the issues and mends now this line and now that one; each
line comes out as if only the issues about it had been there, and what is counted is how often the lines
have been mended (`apply_of_numbered`). So issues about no line have no effect, and neither has the order of
issues about different lines (`apply_lineByLine`).
-/
import CodeReview.Proofs.Fix

namespace CodeReview.Fix

variable {line text : List Char} {rule : String} {issue : Issue} {issues : List Issue} {p : Progress}
  {index : ℕ}

/-! ## One line -/

/-- The line mended for a rule, as far as that is possible. A comment is kept. -/
def mendLine (line : List Char) (rule : String) : List Char :=
  if isComment line then line else (suggest? line rule).getD line

/-- The line is mended for a rule: it is no comment, and the rule has a fix that changes it. -/
def isMendedFor (line : List Char) (rule : String) : Bool := !isComment line && (suggest? line rule).isSome

/-- How often a line is mended for rules that come one after the other. -/
def timesMended : List Char → List String → ℕ
  | _, [] => 0
  | line, rule :: rules => (isMendedFor line rule).toNat + timesMended (mendLine line rule) rules

/-- The number of the line that an issue is about. -/
def numberOf? (issue : Issue) : Option ℤ :=
  match issue.line with
  | .int number => some number
  | _ => none

/-- The rules of the issues about the line at an index. -/
def rulesAt (issues : List Issue) (index : ℕ) : List String :=
  (issues.filter fun issue => numberOf? issue = some (index + 1 : ℤ)).map (·.rule)

theorem mendLine_of_isComment (h : isComment line = true) : mendLine line rule = line := by
  unfold mendLine
  rw [if_pos h]

theorem isMendedFor_of_isComment (h : isComment line = true) : isMendedFor line rule = false := by
  unfold isMendedFor
  rw [h]
  rfl

/-- A line that is mended is no comment and is changed by a fix; any other stays as it is. -/
theorem mendLine_cases (line : List Char) (rule : String) :
    (isMendedFor line rule = false ∧ mendLine line rule = line) ∨ (isMendedFor line rule = true ∧
      isComment line = false ∧ suggest? line rule = some (mendLine line rule)) := by
  unfold isMendedFor mendLine
  cases isComment line with
  | true => exact .inl ⟨rfl, rfl⟩
  | false =>
    cases suggest? line rule with
    | none => exact .inl ⟨rfl, rfl⟩
    | some fixed => exact .inr ⟨rfl, rfl, rfl⟩

/-- A comment stays as it is, whatever rules it is mended for. -/
theorem foldl_mendLine_of_isComment (h : isComment line = true) (rules : List String) :
    rules.foldl mendLine line = line ∧ timesMended line rules = 0 := by
  induction rules with
  | nil => exact ⟨rfl, rfl⟩
  | cons rule rules ih =>
    rw [List.foldl_cons, timesMended, mendLine_of_isComment h, isMendedFor_of_isComment h]
    exact ⟨ih.1, by rw [ih.2]; rfl⟩

theorem mendLine_eq_fixer (h : isComment line = false) {fixer : List Char → List Char}
    (hfixer : fixer? rule = some fixer) : mendLine line rule = fixer line := by
  unfold mendLine suggest?
  rw [h, hfixer, if_neg Bool.false_ne_true]
  dsimp only
  split
  · next hsame => exact hsame.symm
  · rfl

theorem mendLine_of_fixer?_eq_none (h : fixer? rule = none) : mendLine line rule = line := by
  unfold mendLine suggest?
  rw [h]
  split_ifs <;> rfl

theorem within_mendLine {P : Char → Prop} (hput : ∀ c ∈ putIn, P c) (h : ∀ c ∈ line, P c) :
    ∀ c ∈ mendLine line rule, P c := by
  unfold mendLine
  split
  · exact h
  · cases hfixed : suggest? line rule with
    | none => exact h
    | some fixed => exact within_of_suggest? hput h hfixed

theorem within_foldl_mendLine {P : Char → Prop} (hput : ∀ c ∈ putIn, P c) (rules : List String)
    (h : ∀ c ∈ line, P c) : ∀ c ∈ rules.foldl mendLine line, P c := by
  induction rules generalizing line with
  | nil => exact h
  | cons rule rules ih => exact ih (within_mendLine hput h)

/-! ## All lines -/

/-- Lines mended for the rules that each of them has. -/
def mendLines (lines : List (List Char)) (rules : ℕ → List String) : List (List Char) :=
  lines.mapIdx fun i line => (rules i).foldl mendLine line

/-- How often lines are mended for the rules that each of them has, all of them together. -/
def timesMendedAll (lines : List (List Char)) (rules : ℕ → List String) : ℕ :=
  (lines.mapIdx fun i line => timesMended line (rules i)).sum

theorem timesMended_append (line : List Char) (rules more : List String) :
    timesMended line (rules ++ more) = timesMended line rules + timesMended (rules.foldl mendLine line) more := by
  induction rules generalizing line with
  | nil => simp [timesMended]
  | cons rule rules ih => rw [List.cons_append, timesMended, timesMended, ih, List.foldl_cons, Nat.add_assoc]

theorem sum_mapIdx_add {α : Type} (l : List α) (f g : ℕ → α → ℕ) :
    (l.mapIdx fun i a => f i a + g i a).sum = (l.mapIdx f).sum + (l.mapIdx g).sum := by
  induction l generalizing f g with
  | nil => rfl
  | cons a l ih =>
    rw [List.mapIdx_cons, List.mapIdx_cons, List.mapIdx_cons, List.sum_cons, List.sum_cons, List.sum_cons,
      ih (fun i => f (i + 1)) (fun i => g (i + 1))]
    omega

/-- A sum to which one entry alone adds something. -/
theorem sum_mapIdx_eq {α : Type} {l : List α} {f : ℕ → α → ℕ} {k : ℕ} (h : ∀ i ≠ k, ∀ a, f i a = 0) :
    (l.mapIdx f).sum = l[k]?.elim 0 (f k) := by
  induction l generalizing f k with
  | nil => rfl
  | cons a l ih =>
    rw [List.mapIdx_cons, List.sum_cons]
    cases k with
    | zero =>
      have hrest : (l.mapIdx fun i => f (i + 1)).sum = l[l.length]?.elim 0 (f (l.length + 1)) :=
        ih (k := l.length) fun i _ => h (i + 1) (Nat.succ_ne_zero i)
      rw [hrest, List.getElem?_eq_none (Nat.le_refl _)]
      rfl
    | succ k =>
      have hrest : (l.mapIdx fun i => f (i + 1)).sum = l[k]?.elim 0 (f (k + 1)) :=
        ih fun i hi => h (i + 1) (Nat.succ_ne_succ_iff.2 hi)
      rw [hrest, h 0 (Nat.succ_ne_zero k).symm, Nat.zero_add, List.getElem?_cons_succ]

/-- Lines that are mended for some rules and then for more are mended for all of them. -/
theorem mendLines_append (lines : List (List Char)) (rules more : ℕ → List String) :
    mendLines lines (fun i => rules i ++ more i) = mendLines (mendLines lines rules) more ∧
      timesMendedAll lines (fun i => rules i ++ more i) =
        timesMendedAll lines rules + timesMendedAll (mendLines lines rules) more := by
  unfold mendLines timesMendedAll
  simp only [List.foldl_append, timesMended_append, List.mapIdx_mapIdx, sum_mapIdx_add, Function.comp_def,
    true_and]

theorem mendLines_nil (lines : List (List Char)) :
    mendLines lines (fun _ => []) = lines ∧ timesMendedAll lines (fun _ => []) = 0 := by
  unfold mendLines timesMendedAll
  refine ⟨List.mapIdx_eq_iff.2 fun i => Option.map_id'.symm, ?_⟩
  have hsum := sum_mapIdx_eq (l := lines) (f := fun _ line => timesMended line []) (k := lines.length)
    fun _ _ _ => rfl
  rw [List.getElem?_eq_none (Nat.le_refl _)] at hsum
  exact hsum

theorem mendLines_congr {lines : List (List Char)} {rules rules' : ℕ → List String}
    (h : ∀ i < lines.length, rules i = rules' i) :
    mendLines lines rules = mendLines lines rules' ∧ timesMendedAll lines rules = timesMendedAll lines rules' := by
  unfold mendLines timesMendedAll
  have hlines : (lines.mapIdx fun i line => (rules i).foldl mendLine line) =
      lines.mapIdx fun i line => (rules' i).foldl mendLine line :=
    List.mapIdx_eq_mapIdx_iff.2 fun i hi => by rw [h i hi]
  have htimes : (lines.mapIdx fun i line => timesMended line (rules i)) =
      lines.mapIdx fun i line => timesMended line (rules' i) :=
    List.mapIdx_eq_mapIdx_iff.2 fun i hi => by rw [h i hi]
  exact ⟨hlines, by rw [htimes]⟩

/-! ## A run of fixes -/

theorem getElem?_fixAt_of_ne {i : ℕ} (h : index ≠ i) : (p.fixAt index rule).lines[i]? = p.lines[i]? := by
  rcases fixAt_cases p index rule with hsame | ⟨line, fixed, -, -, hmend⟩
  · rw [hsame]
  · rw [hmend]
    exact List.getElem?_set_ne h

/-- Mending the line at an index counts if the line is there and is mended. -/
theorem fixAt_spec (p : Progress) (index : ℕ) (rule : String) :
    (p.fixAt index rule).lines[index]? = p.lines[index]?.map (mendLine · rule) ∧
      (p.fixAt index rule).applied = p.applied + (p.lines[index]?.elim 0 fun line => (isMendedFor line rule).toNat) := by
  unfold Progress.fixAt mendLine isMendedFor
  cases hline : p.lines[index]? with
  | none => exact ⟨hline, rfl⟩
  | some line =>
    have hindex : index < p.lines.length := (List.getElem?_eq_some_iff.1 hline).1
    dsimp only [Option.map_some, Option.elim_some]
    cases isComment line with
    | true => exact ⟨hline, rfl⟩
    | false =>
      cases hfixed : suggest? line rule with
      | none => exact ⟨hline, rfl⟩
      | some fixed => exact ⟨List.getElem?_set_self hindex, rfl⟩

theorem rulesAt_cons (issue : Issue) (issues : List Issue) (index : ℕ) :
    rulesAt (issue :: issues) index = rulesAt [issue] index ++ rulesAt issues index := by
  unfold rulesAt
  rw [← List.map_append, ← List.filter_append, List.singleton_append]

theorem rulesAt_singleton {number : ℤ} (h : numberOf? issue = some number) (index : ℕ) :
    rulesAt [issue] index = if number = index + 1 then [issue.rule] else [] := by
  unfold rulesAt
  rw [List.filter_cons, h]
  by_cases heq : number = index + 1
  · rw [if_pos (by rw [heq]; exact decide_eq_true rfl), if_pos heq]
    rfl
  · rw [if_neg (by simpa using heq), if_neg heq]
    rfl

/-- The fix for an issue mends the line that the issue is about, and no other. -/
theorem fix_spec_of_number {number : ℤ} (h : numberOf? issue = some number) :
    ∃ next, p.fix issue = .ok next ∧ next.lines = mendLines p.lines (rulesAt [issue]) ∧
      next.applied = p.applied + timesMendedAll p.lines (rulesAt [issue]) := by
  have hline : issue.line = .int number := by
    unfold numberOf? at h
    split at h
    · next heq => rw [heq, Option.some.inj h]
    · cases h
  have hrules := rulesAt_singleton h
  refine ⟨if number < 1 then p else p.fixAt (number - 1).toNat issue.rule, ?_, ?_⟩
  · unfold Progress.fix
    rw [hline]
  split_ifs with hlow
  · -- there is no such line
    have hnone : ∀ i < p.lines.length, rulesAt [issue] i = (fun _ => []) i := fun i _ => by
      rw [hrules, if_neg (by omega)]
    obtain ⟨hlines, htimes⟩ := mendLines_congr hnone
    rw [hlines, htimes, (mendLines_nil p.lines).1, (mendLines_nil p.lines).2]
    exact ⟨rfl, rfl⟩
  · obtain ⟨k, rfl⟩ : ∃ k : ℕ, number = k + 1 := ⟨(number - 1).toNat, by omega⟩
    have hat : rulesAt [issue] k = [issue.rule] := by rw [hrules, if_pos rfl]
    have hother {i : ℕ} (hi : i ≠ k) : rulesAt [issue] i = [] := by rw [hrules, if_neg (by omega)]
    obtain ⟨hmended, hcounted⟩ := fixAt_spec p k issue.rule
    rw [Int.add_sub_cancel, Int.toNat_natCast]
    unfold mendLines timesMendedAll
    refine ⟨List.ext_getElem? fun i => ?_, ?_⟩
    · rw [List.getElem?_mapIdx]
      by_cases hi : i = k
      · rw [hi, hmended, hat]
        rfl
      · rw [getElem?_fixAt_of_ne (Ne.symm hi), hother hi]
        exact Option.map_id'.symm
    · rw [hcounted, sum_mapIdx_eq (k := k) fun i hi line => by rw [hother hi]; rfl, hat]
      rfl

/-- A run of fixes mends every line for the rules of the issues about it, in their order. -/
theorem foldlM_fix (h : ∀ issue ∈ issues, (numberOf? issue).isSome = true) :
    ∃ done, issues.foldlM Progress.fix p = .ok done ∧ done.lines = mendLines p.lines (rulesAt issues) ∧
      done.applied = p.applied + timesMendedAll p.lines (rulesAt issues) := by
  induction issues generalizing p with
  | nil =>
    obtain ⟨hlines, htimes⟩ := mendLines_nil p.lines
    exact ⟨p, rfl, hlines.symm, congrArg (p.applied + ·) htimes.symm⟩
  | cons issue issues ih =>
    obtain ⟨hissue, hissues⟩ := List.forall_mem_cons.1 h
    obtain ⟨number, hnumber⟩ := Option.isSome_iff_exists.1 hissue
    obtain ⟨next, hnext, hlines, htimes⟩ := fix_spec_of_number (p := p) hnumber
    obtain ⟨done, hdone, hlines', htimes'⟩ := ih hissues (p := next)
    obtain ⟨hmend, hcount⟩ := mendLines_append p.lines (rulesAt [issue]) (rulesAt issues)
    rw [funext (rulesAt_cons issue issues)]
    refine ⟨done, ?_, ?_, ?_⟩
    · rw [List.foldlM_cons]
      exact Result.bind_eq_ok_iff.2 ⟨next, hnext, hdone⟩
    · rw [hlines', hlines, hmend]
    · rw [htimes', htimes, hlines, hcount, Nat.add_assoc]

/-! ## A text -/

/-- Lines that are mended stay lines. -/
theorem lines_unlines_mendLines (text : List Char) (rules : ℕ → List String) :
    Text.lines (Text.unlines (mendLines (Text.lines text) rules)) = mendLines (Text.lines text) rules := by
  refine Text.lines_unlines ?_ fun line hline hmem => ?_
  · unfold mendLines
    rw [ne_eq, List.mapIdx_eq_nil_iff]
    exact Text.splitOnChar_ne_nil _ _
  · unfold mendLines at hline
    obtain ⟨i, hi, rfl⟩ := List.mem_mapIdx.1 hline
    have hput : ∀ c ∈ putIn, c ≠ '\n' := List.all_iff_forall_prop.1 (by decide)
    refine within_foldl_mendLine hput _ (fun c hc heq => ?_) '\n' hmem rfl
    exact Text.notMem_of_mem_splitOnChar (List.getElem_mem hi) (heq ▸ hc)

/-- The fixes for issues whose lines are numbered do not fail. They mend every line of the text for the rules
of the issues about it, and what they count is how often. -/
theorem apply_of_numbered (text : List Char) (h : ∀ issue ∈ issues, (numberOf? issue).isSome = true) :
    apply text issues = .ok (Text.unlines (mendLines (Text.lines text) (rulesAt issues)),
      timesMendedAll (Text.lines text) (rulesAt issues)) := by
  obtain ⟨done, hdone, hlines, htimes⟩ := foldlM_fix (p := ⟨Text.lines text, 0⟩) h
  refine apply_eq_ok_iff.2 ⟨done, hdone, by rw [hlines], ?_⟩
  rw [htimes, Nat.zero_add]

theorem lines_of_apply (text : List Char) (issues : List Issue)
    (h : ∀ issue ∈ issues, (numberOf? issue).isSome = true) :
    ∃ fixed count, apply text issues = .ok (fixed, count) ∧
      ∀ i, (Text.lines fixed)[i]? = (Text.lines text)[i]?.map ((rulesAt issues i).foldl mendLine) := by
  refine ⟨_, _, apply_of_numbered text h, fun i => ?_⟩
  rw [lines_unlines_mendLines]
  exact List.getElem?_mapIdx

/-- Only the rules of the issues about each line of the text matter. -/
theorem apply_congr {issues' : List Issue} (h : ∀ issue ∈ issues, (numberOf? issue).isSome = true)
    (h' : ∀ issue ∈ issues', (numberOf? issue).isSome = true)
    (hrules : ∀ i < (Text.lines text).length, rulesAt issues' i = rulesAt issues i) :
    apply text issues' = apply text issues := by
  obtain ⟨hlines, htimes⟩ := mendLines_congr hrules
  rw [apply_of_numbered text h, apply_of_numbered text h', hlines, htimes]

/-- The issue is about one of the first lines, as many as there are. -/
def isWithin (count : ℕ) (issue : Issue) : Bool :=
  (numberOf? issue).any fun number => decide (1 ≤ number ∧ number ≤ (count : ℤ))

theorem rulesAt_filter_isWithin {count : ℕ} (h : index < count) :
    rulesAt (issues.filter (isWithin count)) index = rulesAt issues index := by
  unfold rulesAt
  rw [List.filter_filter]
  refine congrArg _ (List.filter_congr fun issue _ => ?_)
  by_cases hnumber : numberOf? issue = some (index + 1 : ℤ)
  · have hwithin : isWithin count issue = true := by
      unfold isWithin
      rw [hnumber, Option.any_some, decide_eq_true_eq]
      omega
    rw [hwithin, Bool.and_true]
  · rw [decide_eq_false hnumber, Bool.false_and]

/-- Fixes for issues whose lines are numbered work line by line. Every line comes out mended for the rules of
the issues about it, in their order, and what is counted is how often the lines have been mended. So a line
that no issue is about stays as it is, and so does a comment; issues about no line of the text have no effect;
and neither has the order of the issues, as long as those about one line stay in theirs. -/
theorem apply_lineByLine (text : List Char) (issues : List Issue)
    (h : ∀ issue ∈ issues, (numberOf? issue).isSome = true) :
    ∃ fixed count, apply text issues = .ok (fixed, count) ∧
      Text.lines fixed = (Text.lines text).mapIdx (fun i line => (rulesAt issues i).foldl mendLine line) ∧
      count = ((Text.lines text).mapIdx fun i line => timesMended line (rulesAt issues i)).sum ∧
      (∀ i line, (Text.lines text)[i]? = some line → rulesAt issues i = [] ∨ isComment line = true →
        (Text.lines fixed)[i]? = some line ∧ timesMended line (rulesAt issues i) = 0) ∧
      apply text (issues.filter (isWithin (Text.lines text).length)) = .ok (fixed, count) ∧
      ∀ issues', issues'.Perm issues → (∀ i, rulesAt issues' i = rulesAt issues i) →
        apply text issues' = .ok (fixed, count) := by
  refine ⟨_, _, apply_of_numbered text h, lines_unlines_mendLines .., rfl, ?_, ?_, ?_⟩
  · intro i line hline hnone
    have hkept : (rulesAt issues i).foldl mendLine line = line ∧ timesMended line (rulesAt issues i) = 0 := by
      rcases hnone with hnone | hcomment
      · rw [hnone]
        exact ⟨rfl, rfl⟩
      · exact foldl_mendLine_of_isComment hcomment _
    refine ⟨?_, hkept.2⟩
    rw [lines_unlines_mendLines]
    unfold mendLines
    rw [List.getElem?_mapIdx, hline, Option.map_some, hkept.1]
  · rw [← apply_of_numbered text h]
    exact apply_congr h (fun issue hissue => h issue (List.mem_of_mem_filter hissue))
      fun i hi => rulesAt_filter_isWithin hi
  · intro issues' hperm hrules
    rw [← apply_of_numbered text h]
    exact apply_congr h (fun issue hissue => h issue (hperm.mem_iff.1 hissue)) fun i _ => hrules i

/-- Of these issues, about the first line, the second, which is a comment, and lines that are not there, only
the two about the first have an effect. -/
theorem apply_lineByLine_of_two_lines :
    let issues := [(0, "prefer-let-const"), (2, "prefer-let-const"), (1, "no-magic-numbers"),
      (-1, "no-magic-numbers"), (9, "prefer-let-const"), (1, "prefer-let-const")].map
        fun (line, rule) => (⟨.int line, .null, .null, "info", rule, "style"⟩ : Issue)
    (∀ issue ∈ issues, (numberOf? issue).isSome = true) ∧
      ∃ fixed count, apply "var a = 7\n// var b".toList issues = .ok (fixed, count) ∧
        fixed = "let a = CONSTANT_7\n// var b".toList ∧ count = 2 := by
  intro issues
  have hnumbered : ∀ issue ∈ issues, (numberOf? issue).isSome = true := List.all_iff_forall_prop.1 (by decide)
  obtain ⟨fixed, count, happly, hlines, hcount, -⟩ :=
    apply_lineByLine "var a = 7\n// var b".toList issues hnumbered
  refine ⟨hnumbered, fixed, count, happly, ?_, ?_⟩
  · rw [← Text.unlines_lines fixed, hlines]
    decide +kernel
  · rw [hcount]
    decide +kernel

end CodeReview.Fix
