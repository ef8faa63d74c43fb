/-
The metrics of a text and of its lines. None of what is counted reaches beyond a line, so counts add up
over the lines (`complexity_eq_sum`, `vocabulary_eq_sum`, `linesOfCode_eq_sum`), and repetition looks at
the lines as a collection without order (`duplication_of_perm`). A text with its lines in another order
has the same metrics.
-/
import CodeReview.Metrics.Quality
import CodeReview.Proofs.Distinct
import CodeReview.Proofs.Pattern.Local

namespace CodeReview.Measure

open Pattern

/-! ## Counts over the lines -/

theorem staysInLine_branchWordPattern : branchWordPattern.staysInLine = true := by decide +kernel

theorem staysInLine_branchOperatorPattern : branchOperatorPattern.staysInLine = true := by
  decide +kernel

theorem staysInLine_operatorPattern : operatorPattern.staysInLine = true := by decide +kernel

theorem staysInLine_operandPattern : operandPattern.staysInLine = true := by decide +kernel

/-- The branches of a text, those of all its lines. -/
theorem complexity_eq_sum (text : List Char) :
    complexity text - 1 = ((Text.lines text).map fun line => complexity line - 1).sum := by
  have hbranches (text : List Char) : complexity text - 1 =
      (branchWordPattern.all text).length + (branchOperatorPattern.all text).length := by
    unfold complexity
    omega
  simp only [hbranches]
  rw [length_all_eq_sum staysInLine_branchWordPattern,
    length_all_eq_sum staysInLine_branchOperatorPattern, ← List.sum_map_add]

theorem vocabulary_eq_sum (text : List Char) :
    vocabulary text = ((Text.lines text).map vocabulary).sum := by
  unfold vocabulary
  rw [length_all_eq_sum staysInLine_operatorPattern, length_all_eq_sum staysInLine_operandPattern,
    ← List.sum_map_add]

theorem linesOfCode_line {line : List Char} (h : '\n' ∉ line) :
    linesOfCode line = if isCode line then 1 else 0 := by
  have halone : Text.lines line = [line] := Text.splitOnChar_of_notMem h
  unfold linesOfCode
  rw [halone, List.filter_cons]
  split <;> rfl

theorem length_filter_eq_sum {lines : List (List Char)} (test : List Char → Bool) :
    (lines.filter test).length = (lines.map fun line => if test line then 1 else 0).sum := by
  induction lines with
  | nil => rfl
  | cons line lines ih =>
    rw [List.filter_cons, List.map_cons, List.sum_cons, ← ih]
    split
    · rw [List.length_cons, Nat.add_comm]
    · rw [Nat.zero_add]

theorem linesOfCode_eq_sum (text : List Char) :
    linesOfCode text = ((Text.lines text).map linesOfCode).sum := by
  have hline : ∀ line ∈ Text.lines text, linesOfCode line = if isCode line then 1 else 0 :=
    fun line hmem => linesOfCode_line (Text.notMem_of_mem_splitOnChar hmem)
  rw [List.map_congr_left hline, ← length_filter_eq_sum]
  rfl

/-! ## Lines in another order -/

section Order

variable {text text' : List Char}

theorem complexity_of_perm (h : (Text.lines text).Perm (Text.lines text')) :
    complexity text = complexity text' := by
  have hbranches : complexity text - 1 = complexity text' - 1 := by
    rw [complexity_eq_sum, complexity_eq_sum, (h.map _).sum_eq]
  have hpos (text : List Char) : 1 ≤ complexity text := by
    unfold complexity
    omega
  have := hpos text
  have := hpos text'
  omega

theorem vocabulary_of_perm (h : (Text.lines text).Perm (Text.lines text')) :
    vocabulary text = vocabulary text' := by
  rw [vocabulary_eq_sum, vocabulary_eq_sum, (h.map _).sum_eq]

theorem maintainability_of_perm (h : (Text.lines text).Perm (Text.lines text')) (complexity : Amount) :
    maintainability text complexity = maintainability text' complexity := by
  unfold maintainability
  rw [vocabulary_of_perm h, h.length_eq]

theorem repeatedCount_perm {lines lines' : List (List Char)} (h : lines.Perm lines') :
    repeatedCount lines = repeatedCount lines' := by
  unfold repeatedCount
  rw [h.length_eq, (eraseDups_perm h).length_eq]

theorem candidates_perm (h : (Text.lines text).Perm (Text.lines text')) :
    (candidates text).Perm (candidates text') := (h.map _).filter _

theorem duplication_of_perm (h : (Text.lines text).Perm (Text.lines text')) :
    duplication text = duplication text' := by
  have hcandidates := candidates_perm h
  unfold duplication
  dsimp only
  rw [hcandidates.isEmpty_eq, repeatedCount_perm hcandidates, hcandidates.length_eq]

theorem linesOfCode_of_perm (h : (Text.lines text).Perm (Text.lines text')) :
    linesOfCode text = linesOfCode text' := by
  rw [linesOfCode_eq_sum, linesOfCode_eq_sum, (h.map _).sum_eq]

theorem ofText_of_perm (h : (Text.lines text).Perm (Text.lines text')) :
    Metrics.ofText text = Metrics.ofText text' := by
  unfold Metrics.ofText
  dsimp only
  rw [complexity_of_perm h, maintainability_of_perm h, duplication_of_perm h, linesOfCode_of_perm h]

/-- The lines of a text in another order are the lines of the text that they make. -/
theorem lines_unlines_of_perm {lines : List (List Char)} (h : lines.Perm (Text.lines text)) :
    Text.lines (Text.unlines lines) = lines := by
  refine Text.lines_unlines ?_ fun line hline => ?_
  · rintro rfl
    exact Text.splitOnChar_ne_nil '\n' text (List.nil_perm.1 h)
  · exact Text.notMem_of_mem_splitOnChar (h.mem_iff.1 hline)

end Order

/-- The metrics of a text are those of its lines as a collection: with the lines in another order they are
the same, and branches and lines of code are those of all the lines. -/
theorem ofText_unlines_of_perm {text : List Char} {lines : List (List Char)}
    (h : lines.Perm (Text.lines text)) :
    Metrics.ofText (Text.unlines lines) = Metrics.ofText text ∧
      complexity text - 1 = ((Text.lines text).map fun line => complexity line - 1).sum ∧
      linesOfCode text = ((Text.lines text).map linesOfCode).sum := by
  have hlines : (Text.lines (Text.unlines lines)).Perm (Text.lines text) := by
    rw [lines_unlines_of_perm h]
    exact h
  exact ⟨ofText_of_perm hlines, complexity_eq_sum text, linesOfCode_eq_sum text⟩

/-- Two lines change places. -/
theorem ofText_swapped : (["b()".toList, "if (a)".toList].Perm (Text.lines "if (a)\nb()".toList)) ∧
    Metrics.ofText "b()\nif (a)".toList = Metrics.ofText "if (a)\nb()".toList := by
  have hswap : ["b()".toList, "if (a)".toList].Perm (Text.lines "if (a)\nb()".toList) := by
    decide +kernel
  exact ⟨hswap, (ofText_unlines_of_perm hswap).1⟩

end CodeReview.Measure
