/-
Totals of a workspace. Files and issues are counted, lines of code are added up and three metrics are
averaged, all of which comes to the same in any order; averages and lines of code look at none but the
results that are not oversized. An average lies among what it is an average of, also when it is rounded
(`totals_of_perm`).
-/
import CodeReview.Proofs.Metrics.Averages
import CodeReview.Proofs.Metrics.Mean

namespace CodeReview

open Result

/-- The metrics that are averaged are no huge numbers. -/
structure Metrics.IsModest (m : Metrics) : Prop where
  complexity : |m.complexity| < 2 ^ 40
  maintainability : |m.maintainability| < 2 ^ 40
  duplication : |m.duplication| < 2 ^ 40

namespace Workspace

/-- The metrics that are averaged. -/
def averagedParts : List (Metrics → ℤ) :=
  [Metrics.complexity, Metrics.maintainability, Metrics.duplication]

section Combine

variable {metrics metrics' : List Metrics}

theorem average_perm (h : metrics.Perm metrics') (part : Metrics → ℤ) :
    average metrics part = average metrics' part := by
  unfold average
  rw [sumInt_perm (h.map part), h.length_eq]

theorem combine_perm (h : metrics.Perm metrics') : combine metrics = combine metrics' := by
  unfold combine
  simp only [h.isEmpty_eq, average_perm h, sumInt_perm (h.map _)]

/-- The average of a metric that is not huge can be computed, and rounded it lies among its values. -/
theorem average_modest (part : Metrics → ℤ) (hsome : metrics ≠ [])
    (h : ∀ m ∈ metrics, |part m| < 2 ^ 40) :
    ∃ x q n, average metrics part = .ok x ∧ x.IsProper ∧ x.toRat? = some q ∧ |q| ≤ 2 ^ 40 ∧
      roundHalfUp x = .ok n ∧ LiesAmong n {v | ∃ m ∈ metrics, part m = v} := by
  have hparts : ∀ v ∈ metrics.map part, |v| ≤ 2 ^ 40 := by
    intro v hv
    obtain ⟨m, hm, rfl⟩ := List.mem_map.1 hv
    exact (h m hm).le
  obtain ⟨haverage, hvalue, hrange, n, hn, hamong⟩ :=
    mean_spec (by simpa using hsome) (by norm_num) hparts
  refine ⟨_, _, n, ?_, Double.isProper_round _, hvalue, by exact_mod_cast hrange, hn, ?_⟩
  · rw [List.length_map] at haverage
    exact haverage
  · simpa only [List.mem_map] using hamong

/-- Metrics that are not huge can be combined. The lines of code are added up, and each average lies
among what it is an average of. -/
theorem combine_modest (h : ∀ m ∈ metrics, m.IsModest) :
    ∃ total, combine metrics = .ok total ∧
      total.linesOfCode = (metrics.map (·.linesOfCode)).sum ∧
      (metrics ≠ [] → ∀ part ∈ averagedParts,
        LiesAmong (part total) {v | ∃ m ∈ metrics, part m = v}) := by
  by_cases hnone : metrics = []
  · subst hnone
    exact ⟨.zero, rfl, rfl, fun hsome => absurd rfl hsome⟩
  have hempty : metrics.isEmpty = false := by simpa using hnone
  obtain ⟨c, a, i, hc, hcProper, ha, haRange, hi, hiAmong⟩ :=
    average_modest Metrics.complexity hnone fun m hm => (h m hm).complexity
  obtain ⟨m, b, j, hm, hmProper, hb, -, hj, hjAmong⟩ :=
    average_modest Metrics.maintainability hnone fun m hm => (h m hm).maintainability
  obtain ⟨d, e, k, hd, hdProper, he, heRange, hk, hkAmong⟩ :=
    average_modest Metrics.duplication hnone fun m hm => (h m hm).duplication
  -- the score is computed of the averages before rounding, and these are not far below zero
  obtain ⟨haLow, -⟩ := abs_le.1 haRange
  obtain ⟨heLow, -⟩ := abs_le.1 heRange
  obtain ⟨score, hscore⟩ := Measure.returns_qualityScore_float ha hb hmProper he hdProper
    (by linarith) (by linarith)
  refine ⟨⟨i, j, k, sumInt (metrics.map (·.linesOfCode)), score⟩, ?_, sumInt_eq_sum _, ?_⟩
  · unfold combine
    rw [hempty, if_neg Bool.false_ne_true, hc, ok_bind, hm, ok_bind, hd, ok_bind, hi, ok_bind, hj,
      ok_bind, hk, ok_bind, hscore]
    rfl
  · intro _ part hpart
    simp only [averagedParts, List.mem_cons, List.not_mem_nil, or_false] at hpart
    rcases hpart with rfl | rfl | rfl
    · exact hiAmong
    · exact hjAmong
    · exact hkAmong

end Combine

section Results

variable {results results' : List ScanResult}

theorem ofResults_of_combine {total : Metrics} (h : combine (measured results) = .ok total)
    (milliseconds : ℤ) : ofResults results milliseconds = .ok ⟨results, total, milliseconds⟩ := by
  unfold ofResults
  rw [h]
  rfl

theorem mem_measured_iff {m : Metrics} :
    m ∈ measured results ↔ ∃ r ∈ results, r.oversized = false ∧ r.metrics = m := by
  unfold measured
  simp [and_assoc]

/-- Results in another order have the same totals. Files and issues are those of all results, lines of
code those of the results that are not oversized, and if there are any, each average lies among the
metrics of these. Whatever other results there are, the metrics are the same as long as the results that
are not oversized are. -/
theorem totals_of_perm (hperm : results.Perm results')
    (hmodest : ∀ r ∈ results, r.oversized = false → r.metrics.IsModest) (milliseconds : ℤ) :
    ∃ w w', ofResults results milliseconds = .ok w ∧ ofResults results' milliseconds = .ok w' ∧
      (w'.fileCount = w.fileCount ∧ w'.issueCount = w.issueCount ∧ w'.metrics = w.metrics) ∧
      w.fileCount = results.length ∧
      w.issueCount = (results.map (·.issueCount)).sum ∧
      w.metrics.linesOfCode =
        ((results.filter (!·.oversized)).map (·.metrics.linesOfCode)).sum ∧
      ((∃ r ∈ results, r.oversized = false) → ∀ part ∈ averagedParts,
        LiesAmong (part w.metrics) {v | ∃ r ∈ results, r.oversized = false ∧ part r.metrics = v}) ∧
      ∀ others : List ScanResult,
        (others.filter (!·.oversized)).Perm (results.filter (!·.oversized)) →
        ∃ w'', ofResults others milliseconds = .ok w'' ∧ w''.metrics = w.metrics := by
  have hmeasured : ∀ m ∈ measured results, m.IsModest := by
    intro m hm
    obtain ⟨r, hr, hsize, rfl⟩ := mem_measured_iff.1 hm
    exact hmodest r hr hsize
  obtain ⟨total, htotal, hlines, hparts⟩ := combine_modest hmeasured
  have hothers (others : List ScanResult)
      (h : (others.filter (!·.oversized)).Perm (results.filter (!·.oversized))) :
      ofResults others milliseconds = .ok ⟨others, total, milliseconds⟩ := by
    have hsame : (measured others).Perm (measured results) := h.map _
    exact ofResults_of_combine ((combine_perm hsame).trans htotal) milliseconds
  refine ⟨_, _, hothers results (.refl _), hothers results' (hperm.symm.filter _),
    ⟨hperm.symm.length_eq, ?_, rfl⟩, rfl, sumNat_eq_sum _, ?_, ?_, ?_⟩
  · unfold issueCount
    rw [sumNat_eq_sum, sumNat_eq_sum, (hperm.symm.map _).sum_eq]
  · rw [hlines, measured, List.map_map]
    rfl
  · rintro ⟨r, hr, hsize⟩ part hpart
    have hsome : measured results ≠ [] := List.ne_nil_of_mem (mem_measured_iff.2 ⟨r, hr, hsize, rfl⟩)
    refine (hparts hsome part hpart).mono ?_
    rintro v ⟨m, hm, rfl⟩
    obtain ⟨r, hr, hsize, rfl⟩ := mem_measured_iff.1 hm
    exact ⟨r, hr, hsize, rfl⟩
  · exact fun others h => ⟨_, hothers others h, rfl⟩

end Results

/-- Two results and one that is oversized, whose metrics are huge and count for nothing. -/
theorem totals_of_perm_of_oversized :
    let first : ScanResult := { file := "a.py", metrics := ⟨1, 90, 0, 10, 96⟩ }
    let second : ScanResult := { file := "b.py", metrics := ⟨4, 75, 20, 32, 83⟩ }
    let issue : Issue :=
      ⟨.int 1, .int 1, .string "File is too large", "info", "file-too-large", "performance"⟩
    let large : ScanResult :=
      { file := "c.py", issues := [issue], metrics := ⟨2 ^ 60, 0, 0, 7, 0⟩, oversized := true }
    ∃ w w', ofResults [first, large, second] 5 = .ok w ∧ ofResults [second, first, large] 5 = .ok w' ∧
      (w'.fileCount = w.fileCount ∧ w'.issueCount = w.issueCount ∧ w'.metrics = w.metrics) ∧
      w.fileCount = 3 ∧ w.issueCount = 1 ∧ w.metrics.linesOfCode = 42 ∧
      ∀ part ∈ averagedParts,
        LiesAmong (part w.metrics) {v | part first.metrics = v ∨ part second.metrics = v} := by
  intro first second issue large
  have hperm : [first, large, second].Perm [second, first, large] :=
    (List.Perm.swap second large []).cons first |>.trans (.swap second first [large])
  have hmodest : ∀ r ∈ [first, large, second], r.oversized = false → r.metrics.IsModest := by
    intro r hr hsize
    simp only [List.mem_cons, List.not_mem_nil, or_false] at hr
    rcases hr with rfl | rfl | rfl
    · exact ⟨by decide, by decide, by decide⟩
    · cases hsize
    · exact ⟨by decide, by decide, by decide⟩
  obtain ⟨w, w', hw, hw', hsame, hfiles, hissues, hlines, hamong, -⟩ := totals_of_perm hperm hmodest 5
  refine ⟨w, w', hw, hw', hsame, hfiles, hissues, hlines, fun part hpart => ?_⟩
  refine (hamong ⟨first, .head _, rfl⟩ part hpart).mono ?_
  rintro v ⟨r, hr, hsize, rfl⟩
  simp only [List.mem_cons, List.not_mem_nil, or_false] at hr
  rcases hr with rfl | rfl | rfl
  · exact .inl rfl
  · cases hsize
  · exact .inr rfl

end Workspace

end CodeReview
