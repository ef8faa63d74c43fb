/-
What quick fixes leave alone. A fix mends one line and never cuts it in two, since it puts in no
character that ends a line (`isInLine_of_suggest?`). So a run of fixes keeps the number of the lines and
all the lines that it does not mend (`mends_of_foldlM`), and it mends none exactly if it counts none
(`apply_spec`). What ends the lines of a file is another matter: once a line is mended, no carriage return
is left in the file (`leaves_of_apply`, `Leaves.row_eq_iff`).
-/
import CodeReview.Fix
import CodeReview.Proofs.Disk.Tree
import CodeReview.Proofs.Pattern.Within
import CodeReview.Proofs.Result
import CodeReview.Proofs.Text.Rows
import Mathlib.Data.Bool.AllAny

namespace CodeReview.Fix

open Text (IsInLine)

variable {line fixed text : List Char} {rule : String} {issue : Issue} {issues : List Issue}

/-! ## Mending a line -/

/-- The characters that fixes put into lines. -/
def putIn : List Char := "// let = CONSTANT_ for ( of )".toList

section Characters

variable {P : Char → Prop}

theorem within_commentOut (hput : ∀ c ∈ putIn, P c) (h : ∀ c ∈ line, P c) :
    ∀ c ∈ commentOut line, P c := by
  intro c hc
  unfold commentOut at hc
  rcases List.mem_append.1 hc with hc | hc
  · rcases List.mem_append.1 hc with hc | hc
    · exact h c ((List.takeWhile_sublist _).subset hc)
    · have hslashes : ∀ c ∈ ['/', '/', ' '], c ∈ putIn := List.all_iff_forall_prop.1 (by decide)
      exact hput c (hslashes c hc)
  · exact h c ((List.dropWhile_sublist _).subset hc)

theorem within_varToLet (hput : ∀ c ∈ putIn, P c) (h : ∀ c ∈ line, P c) :
    ∀ c ∈ varToLet line, P c := by
  have hlet : ∀ c ∈ "let ".toList, c ∈ putIn := List.all_iff_forall_prop.1 (by decide)
  exact Pattern.replaceFirst_within (fun _ _ c hc => hput c (hlet c hc)) h

theorem within_strictEquality (hput : ∀ c ∈ putIn, P c) (h : ∀ c ∈ line, P c) :
    ∀ c ∈ strictEquality line, P c := by
  refine Pattern.replaceAll_within (fun found hfound c hc => ?_) h
  rcases List.mem_append.1 hc with hc | hc
  · exact hfound.group 1 c hc
  · have hsigns : ∀ c ∈ ['=', '='], c ∈ putIn := List.all_iff_forall_prop.1 (by decide)
    exact hput c (hsigns c hc)

theorem within_nameNumber (hput : ∀ c ∈ putIn, P c) (h : ∀ c ∈ line, P c) :
    ∀ c ∈ nameNumber line, P c := by
  unfold nameNumber
  split
  · next found hfound =>
    have hwithin := (Pattern.splits_of_mem_all (List.mem_of_find?_eq_some hfound)).within h
    intro c hc
    simp only [List.mem_append, List.mem_reverse] at hc
    rcases hc with ((hc | hc) | hc) | hc
    · exact hwithin.start.before c hc
    · have hname : ∀ c ∈ "CONSTANT_".toList, c ∈ putIn := List.all_iff_forall_prop.1 (by decide)
      exact hput c (hname c hc)
    · exact hwithin.text c hc
    · exact hwithin.stop.rest c hc
  · exact h

theorem within_forInToForOf (hput : ∀ c ∈ putIn, P c) (h : ∀ c ∈ line, P c) :
    ∀ c ∈ forInToForOf line, P c := by
  have hhead : ∀ c ∈ "for (".toList ++ " of ".toList, c ∈ putIn :=
    List.all_iff_forall_prop.1 (by decide)
  refine Pattern.replaceFirst_within (fun found hfound c hc => ?_) h
  simp only [List.mem_append, List.mem_cons, List.not_mem_nil, or_false] at hc
  rcases hc with ((((hc | hc) | (rfl | hc)) | hc) | hc) | rfl
  · exact hput c (hhead c (List.mem_append_left _ hc))
  · exact hfound.group 1 c hc
  · exact hput ' ' (by decide)
  · exact hfound.group 2 c hc
  · exact hput c (hhead c (List.mem_append_right _ hc))
  · exact hfound.group 3 c hc
  · exact hput ')' (by decide)

/-- A line that is mended is made of its own characters and of those that fixes put in. -/
theorem within_of_suggest? (hput : ∀ c ∈ putIn, P c) (h : ∀ c ∈ line, P c)
    (hfixed : suggest? line rule = some fixed) : ∀ c ∈ fixed, P c := by
  unfold suggest? at hfixed
  split at hfixed
  · cases hfixed
  next fixer hfixer =>
  dsimp only at hfixed
  split at hfixed
  · cases hfixed
  obtain rfl := Option.some.inj hfixed
  unfold fixer? at hfixer
  split_ifs at hfixer
  · obtain rfl := Option.some.inj hfixer
    exact within_varToLet hput h
  · obtain rfl := Option.some.inj hfixer
    exact within_strictEquality hput h
  · obtain rfl := Option.some.inj hfixer
    exact within_commentOut hput h
  · obtain rfl := Option.some.inj hfixer
    exact within_commentOut hput h
  · obtain rfl := Option.some.inj hfixer
    exact within_nameNumber hput h
  · obtain rfl := Option.some.inj hfixer
    exact within_forInToForOf hput h

end Characters

/-- A line that is mended stays one line. -/
theorem isInLine_of_suggest? (h : ∀ c ∈ line, IsInLine c) (hfixed : suggest? line rule = some fixed) :
    ∀ c ∈ fixed, IsInLine c := by
  refine within_of_suggest? (fun c hc => ?_) h hfixed
  have hinLine : ∀ c ∈ putIn, c ≠ '\n' ∧ c ≠ '\r' := List.all_iff_forall_prop.1 (by decide)
  exact hinLine c hc

/-- A fix that changes nothing is none. -/
theorem ne_of_suggest? (h : suggest? line rule = some fixed) : fixed ≠ line := by
  unfold suggest? at h
  split at h
  · cases h
  · dsimp only at h
    split at h
    · cases h
    · next hne => exact Option.some.inj h ▸ hne

/-! ## One fix -/

variable {p next done : Progress} {index : ℕ}

theorem fixAt_cases (p : Progress) (index : ℕ) (rule : String) : p.fixAt index rule = p ∨
    ∃ line fixed, p.lines[index]? = some line ∧ suggest? line rule = some fixed ∧
      p.fixAt index rule = ⟨p.lines.set index fixed, p.applied + 1⟩ := by
  unfold Progress.fixAt
  cases hline : p.lines[index]? with
  | none => exact .inl rfl
  | some line =>
    dsimp only
    split
    · exact .inl rfl
    · cases hfixed : suggest? line rule with
      | none => exact .inl rfl
      | some fixed => exact .inr ⟨line, fixed, rfl, hfixed, rfl⟩

/-- The fix for an issue mends one line, or none. -/
theorem fix_cases (h : p.fix issue = .ok next) : next = p ∨
    ∃ index line fixed, p.lines[index]? = some line ∧ suggest? line issue.rule = some fixed ∧
      next = ⟨p.lines.set index fixed, p.applied + 1⟩ := by
  have hline (number : ℤ) : (if number < 1 then p else p.fixAt (number - 1).toNat issue.rule) = next →
      next = p ∨ ∃ index line fixed, p.lines[index]? = some line ∧
        suggest? line issue.rule = some fixed ∧ next = ⟨p.lines.set index fixed, p.applied + 1⟩ := by
    intro hnext
    split at hnext
    · exact .inl hnext.symm
    · rcases fixAt_cases p (number - 1).toNat issue.rule with hsame | ⟨line, fixed, hline, hfixed, hmend⟩
      · exact .inl (hnext.symm.trans hsame)
      · exact .inr ⟨_, line, fixed, hline, hfixed, hnext.symm.trans hmend⟩
  unfold Progress.fix at h
  dsimp only at h
  split at h
  · exact hline _ (Except.ok.inj h)
  · exact hline _ (Except.ok.inj h)
  · split at h
    · cases h
    · exact .inl (Except.ok.inj h).symm
  · cases h

/-! ## A run of fixes -/

/-- The indices of the lines that a step changes. -/
def changes (p next : Progress) : List ℕ :=
  (List.range p.lines.length).filter fun i => p.lines[i]? ≠ next.lines[i]?

/-- The indices of the lines that the fixes for some issues mend, fix by fix. -/
def mendedFrom : Progress → List Issue → List ℕ
  | _, [] => []
  | p, issue :: issues =>
    match p.fix issue with
    | .ok next => changes p next ++ mendedFrom next issues
    | .error _ => []

/-- The indices of the lines of a text that the fixes for some issues mend. If one of the fixes fails
nothing is. -/
def mended (text : List Char) (issues : List Issue) : List ℕ :=
  match issues.foldlM Progress.fix ⟨Text.lines text, 0⟩ with
  | .ok _ => mendedFrom ⟨Text.lines text, 0⟩ issues
  | .error _ => []

theorem mem_changes_iff : index ∈ changes p next ↔
    index < p.lines.length ∧ p.lines[index]? ≠ next.lines[index]? := by
  unfold changes
  rw [List.mem_filter, List.mem_range, decide_eq_true_eq]

/-- What fixes do to lines of which they mend some: no line is lost, the others are as they were, all stay
lines, and nothing is counted exactly if nothing is mended. -/
structure Mends (p done : Progress) (mended : List ℕ) : Prop where
  length : done.lines.length = p.lines.length
  others : ∀ i ∉ mended, done.lines[i]? = p.lines[i]?
  inLine : (∀ line ∈ p.lines, ∀ c ∈ line, IsInLine c) → ∀ line ∈ done.lines, ∀ c ∈ line, IsInLine c
  applied_le : p.applied ≤ done.applied
  applied_eq_iff : done.applied = p.applied ↔ mended = []

namespace Mends

theorem refl (p : Progress) : Mends p p [] where
  length := rfl
  others _ _ := rfl
  inLine h := h
  applied_le := le_refl _
  applied_eq_iff := iff_of_true rfl rfl

theorem trans {first second : List ℕ} (h : Mends p next first) (h' : Mends next done second) :
    Mends p done (first ++ second) where
  length := h'.length.trans h.length
  others i hi := by
    rw [List.mem_append, not_or] at hi
    rw [h'.others i hi.2, h.others i hi.1]
  inLine hlines := h'.inLine (h.inLine hlines)
  applied_le := h.applied_le.trans h'.applied_le
  applied_eq_iff := by
    have hle := h.applied_le
    have hle' := h'.applied_le
    rw [List.append_eq_nil_iff, ← h.applied_eq_iff, ← h'.applied_eq_iff]
    constructor
    · intro hsame
      constructor <;> omega
    · rintro ⟨hfirst, hsecond⟩
      exact hsecond.trans hfirst

end Mends

theorem changes_self (p : Progress) : changes p p = [] := by
  unfold changes
  rw [List.filter_eq_nil_iff]
  simp

/-- One fix mends the line that it changes. -/
theorem mends_of_fix (h : p.fix issue = .ok next) : Mends p next (changes p next) := by
  rcases fix_cases h with rfl | ⟨index, line, fixed, hline, hfixed, rfl⟩
  · rw [changes_self]
    exact .refl _
  have hindex : index < p.lines.length := (List.getElem?_eq_some_iff.1 hline).1
  refine ⟨List.length_set, fun i hi => ?_, fun hlines => ?_, Nat.le_succ _, ?_⟩
  · rw [mem_changes_iff, not_and_not_right] at hi
    by_cases hrange : i < p.lines.length
    · exact (hi hrange).symm
    · rw [List.getElem?_eq_none (not_lt.1 hrange),
        List.getElem?_eq_none (by rw [List.length_set]; exact not_lt.1 hrange)]
  · intro other hother
    rcases List.mem_or_eq_of_mem_set hother with hother | rfl
    · exact hlines other hother
    · exact isInLine_of_suggest? (hlines line (List.mem_of_getElem? hline)) hfixed
  · -- the line at the index differs
    refine iff_of_false (Nat.succ_ne_self _) (List.ne_nil_of_mem (a := index) (mem_changes_iff.2 ?_))
    refine ⟨hindex, ?_⟩
    rw [hline, List.getElem?_set_self hindex]
    exact fun hsame => ne_of_suggest? hfixed (Option.some.inj hsame).symm

/-- A run of fixes mends the lines that its fixes change. -/
theorem mends_of_foldlM (h : issues.foldlM Progress.fix p = .ok done) :
    Mends p done (mendedFrom p issues) := by
  induction issues generalizing p with
  | nil =>
    obtain rfl := Except.ok.inj h
    exact .refl p
  | cons issue issues ih =>
    rw [List.foldlM_cons] at h
    obtain ⟨next, hnext, h⟩ := Result.bind_eq_ok_iff.1 h
    unfold mendedFrom
    rw [hnext]
    exact (mends_of_fix hnext).trans (ih h)

/-! ## A text -/

theorem apply_eq_ok_iff {count : ℕ} : apply text issues = .ok (fixed, count) ↔
    ∃ done, issues.foldlM Progress.fix ⟨Text.lines text, 0⟩ = .ok done ∧
      Text.unlines done.lines = fixed ∧ done.applied = count := by
  unfold apply
  rw [Result.bind_eq_ok_iff]
  refine exists_congr fun done => and_congr_right fun _ => ?_
  constructor
  · intro h
    obtain ⟨hfixed, hcount⟩ := Prod.mk.inj (Except.ok.inj h)
    exact ⟨hfixed, hcount⟩
  · rintro ⟨rfl, rfl⟩
    rfl

/-- Fixes keep the lines of a text that they do not mend, and its number of lines; nothing is counted
exactly if nothing is mended. -/
theorem apply_spec {count : ℕ} (h : apply text issues = .ok (fixed, count)) (hreturn : '\r' ∉ text) :
    (Text.lines fixed).length = (Text.lines text).length ∧
      (∀ i ∉ mended text issues, (Text.lines fixed)[i]? = (Text.lines text)[i]?) ∧ '\r' ∉ fixed ∧
      (count = 0 ↔ mended text issues = []) := by
  obtain ⟨done, hdone, rfl, rfl⟩ := apply_eq_ok_iff.1 h
  have hmends := mends_of_foldlM hdone
  have hmended : mended text issues = mendedFrom ⟨Text.lines text, 0⟩ issues := by
    unfold mended
    rw [hdone]
  have hinLine := hmends.inLine fun line hline => Text.isInLine_of_mem_lines hreturn hline
  have hne : done.lines ≠ [] := by
    rw [← List.length_pos_iff, hmends.length]
    exact List.length_pos_of_ne_nil (Text.splitOnChar_ne_nil _ _)
  have hlines : Text.lines (Text.unlines done.lines) = done.lines :=
    Text.lines_unlines hne fun line hline hfeed => (hinLine line hline '\n' hfeed).1 rfl
  rw [hlines, hmended]
  refine ⟨hmends.length, hmends.others, fun hmem => ?_, hmends.applied_eq_iff⟩
  rcases Text.mem_unlines hmem with heq | ⟨line, hline, hc⟩
  · exact absurd heq (by decide)
  · exact (hinLine line hline '\r' hc).2 rfl

theorem mended_of_apply_error {fault : Fault} (h : apply text issues = .error fault) :
    mended text issues = [] := by
  unfold mended
  split
  · next done hdone =>
    have hfixed := apply_eq_ok_iff.2 ⟨done, hdone, rfl, rfl⟩
    cases hfixed.symm.trans h
  · rfl

/-! ## A file -/

open Text (Row rows)

/-- What is left of a text, as it was in a file, when fixes that mend some of its lines are written: no
line is lost, and the others are as they were but for what ends them. -/
structure Leaves (text left : List Char) (mended : List ℕ) : Prop where
  untouched : mended = [] → left = text
  length : (rows left).length = (rows text).length
  line : ∀ i ∉ mended, (rows left)[i]?.map Row.line = (rows text)[i]?.map Row.line
  plain : mended ≠ [] → '\r' ∉ left

namespace Leaves

variable {left : List Char} {mended : List ℕ}

theorem refl (text : List Char) : Leaves text text [] where
  untouched _ := rfl
  length := rfl
  line _ _ := rfl
  plain h := absurd rfl h

/-- A line that is not mended is the same to its last character exactly if it does not end in a carriage
return, or nothing is mended at all. -/
theorem row_eq_iff (h : Leaves text left mended) {i : ℕ} (hi : i ∉ mended) :
    (rows left)[i]? = (rows text)[i]? ↔
      mended = [] ∨ ∀ row, (rows text)[i]? = some row → '\r' ∉ row.ending := by
  by_cases hnone : mended = []
  · rw [h.untouched hnone]
    exact iff_of_true rfl (.inl hnone)
  rw [or_iff_right hnone]
  have hline := h.line i hi
  cases hrow : (rows text)[i]? with
  | none =>
    have hleft : (rows left)[i]? = none := by
      rw [List.getElem?_eq_none_iff, h.length]
      exact List.getElem?_eq_none_iff.1 hrow
    exact iff_of_true hleft fun _ => nofun
  | some row =>
    rw [hrow] at hline
    obtain ⟨row', hrow', hsame⟩ := Option.map_eq_some_iff.1 hline
    rw [hrow', Option.some.injEq, Text.row_eq_iff hrow hrow' (h.plain hnone) h.length hsame]
    exact ⟨fun hreturn _ heq => Option.some.inj heq ▸ hreturn, fun hreturn => hreturn row rfl⟩

end Leaves

/-- The fixes are made in the text as it is read, with line feeds only. -/
theorem leaves_of_apply {count : ℕ} (h : apply (Text.normalizeNewlines text) issues = .ok (fixed, count))
    (hcount : count ≠ 0) : Leaves text fixed (mended (Text.normalizeNewlines text) issues) := by
  obtain ⟨hlength, hothers, hreturn, hnone⟩ := apply_spec h (Text.return_notMem_normalizeNewlines text)
  have hrows (t : List Char) : (rows t).length = (Text.lines (Text.normalizeNewlines t)).length := by
    rw [← Text.map_line_rows, List.length_map]
  have hline (t : List Char) (i : ℕ) :
      (rows t)[i]?.map Row.line = (Text.lines (Text.normalizeNewlines t))[i]? := by
    rw [← Text.map_line_rows, List.getElem?_map]
  have hfixed := Text.normalizeNewlines_eq_self hreturn
  refine ⟨fun hmended => absurd (hnone.2 hmended) hcount, ?_, fun i hi => ?_, fun _ => hreturn⟩
  · rw [hrows, hrows, hfixed, hlength]
  · rw [hline, hline, hfixed, hothers i hi]

end CodeReview.Fix
