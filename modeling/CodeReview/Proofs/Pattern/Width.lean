/-
How many characters a pattern takes at least. `leastWidth` reads it off the pattern, and from any place the
pattern leads at least that far (`leastWidth_le_of_mem_ends`). So a match begins far enough from the end of
its text for the pattern to have room (`Found.Splits.start_add_leastWidth_le`): a pattern that takes a
character never matches at the very end.
-/
import CodeReview.Proofs.Pattern.Finding

namespace CodeReview.Pattern

/-- No match of the pattern has fewer characters. What looks around, or stands for what is remembered, may
take none. -/
def leastWidth : Pattern → ℕ
  | .empty | .never | .ahead .. | .behind .. | .recall .. | .anchor _ => 0
  | .char _ => 1
  | .seq p q => p.leastWidth + q.leastWidth
  | .alt p q | .ifCaptured _ p q => min p.leastWidth q.leastWidth
  | .chars _ least _ _ => least
  | .repeated p least _ _ => least * p.leastWidth
  | .capture _ p | .atomic p => p.leastWidth

/-! ## Repeated characters -/

section Characters

variable {test : CharTest} {least : ℕ} {most : Option ℕ} {kind : Repetition} {c after : Cursor}

theorem Cursor.Reaches.position_le (h : c.Reaches after) : c.position ≤ after.position := by
  obtain ⟨part, -, -, hposition⟩ := h
  omega

theorem add_le_of_mem_endsChars (h : after ∈ endsChars test least most kind c) :
    c.position + least ≤ after.position := by
  -- a run that is not too short has moved as many characters as it has counted
  have hrun (most : Option ℕ) : (takeRun test most c.captures 0 c.before c.position c.rest).2.position =
      c.position + (takeRun test most c.captures 0 c.before c.position c.rest).1 := by
    have hmost : ∀ m ∈ most, 0 ≤ m := fun m _ => Nat.zero_le m
    obtain ⟨part, left, -, -, -, -, htake⟩ := takeRun_spec c.captures c.position c.before c.rest hmost
    rw [htake, Nat.zero_add]
  cases kind with
  | greedy =>
    obtain ⟨part, rest, -, -, hleast, -, rfl⟩ := mem_endsChars_greedy_iff.1 h
    exact Nat.add_le_add_left hleast c.position
  | possessive =>
    unfold endsChars at h
    dsimp only at h
    split at h
    · cases h
    · next hfew =>
      obtain rfl := List.mem_singleton.1 h
      rw [hrun]
      omega
  | reluctant =>
    unfold endsChars at h
    dsimp only at h
    split at h
    · cases h
    · next hfew =>
      obtain ⟨part, left, -, rfl⟩ := past_of_mem_furthers h
      rw [Cursor.past_position]
      dsimp only
      rw [hrun]
      omega

end Characters

/-! ## Repeated patterns -/

section Repeated

variable {body : Runner} {leads : Cursor → List Cursor} {least count width fuel : ℕ} {most last : Option ℕ}
  {c mid after : Cursor}

/-- Repetitions lead further right if each of them does. -/
theorem reaches_step (hleads : ∀ c, ∀ after ∈ leads c, c.Reaches after) :
    ∀ mid, c.Reaches mid → ∀ after ∈ leads mid, c.Reaches after :=
  fun mid hmid after hafter => hmid.trans (hleads mid after hafter)

/-- A repetition that is asked for takes its share, and those after it theirs. -/
theorem add_mul_le_of_step (hcount : count < least) (hmid : c.position + width ≤ mid.position)
    (h : mid.position + (least - (count + 1)) * width ≤ after.position) :
    c.position + (least - count) * width ≤ after.position := by
  rw [show least - count = least - (count + 1) + 1 by omega, Nat.add_mul, Nat.one_mul]
  omega

/-- No more repetitions are asked for. -/
theorem add_mul_le_of_reaches (hcount : ¬ count < least) (h : c.Reaches after) :
    c.position + (least - count) * width ≤ after.position := by
  rw [Nat.sub_eq_zero_of_le (Nat.not_lt.1 hcount), Nat.zero_mul, Nat.add_zero]
  exact h.position_le

variable (hwidth : ∀ c, ∀ after ∈ leads c, c.position + width ≤ after.position)
  (hleads : ∀ c, ∀ after ∈ leads c, c.Reaches after)

include hwidth hleads

theorem add_mul_le_of_mem_endsGreedy (h : after ∈ endsGreedy leads least most fuel count last c) :
    c.position + (least - count) * width ≤ after.position := by
  induction fuel generalizing count last c with
  | zero => cases h
  | succ fuel ih =>
    by_cases hcount : count < least
    · unfold endsGreedy at h
      rw [if_pos hcount] at h
      obtain ⟨mid, hmid, h⟩ := List.mem_flatMap.1 h
      exact add_mul_le_of_step hcount (hwidth c mid hmid) (ih h)
    · exact add_mul_le_of_reaches hcount (keeps_of_mem_endsGreedy (reaches_step hleads) (.refl c) h)

theorem add_mul_le_of_mem_endsReluctant (h : after ∈ endsReluctant leads least most fuel count last c) :
    c.position + (least - count) * width ≤ after.position := by
  induction fuel generalizing count last c with
  | zero => cases h
  | succ fuel ih =>
    by_cases hcount : count < least
    · unfold endsReluctant at h
      rw [if_pos hcount] at h
      obtain ⟨mid, hmid, h⟩ := List.mem_flatMap.1 h
      exact add_mul_le_of_step hcount (hwidth c mid hmid) (ih h)
    · exact add_mul_le_of_reaches hcount (keeps_of_mem_endsReluctant (reaches_step hleads) (.refl c) h)

theorem add_mul_le_of_runPossessive (hsome : ∀ c after, body c some = some after → after ∈ leads c)
    (h : runPossessive body least most fuel count last c = some after) :
    c.position + (least - count) * width ≤ after.position := by
  induction fuel generalizing count last c with
  | zero => cases h
  | succ fuel ih =>
    by_cases hcount : count < least
    · unfold runPossessive at h
      rw [if_pos hcount] at h
      split at h
      · next mid hmid => exact add_mul_le_of_step hcount (hwidth c mid (hsome c mid hmid)) (ih h)
      · cases h
    · refine add_mul_le_of_reaches hcount ?_
      exact keeps_of_runPossessive (reaches_step hleads) hsome (.refl c) h

end Repeated

/-! ## Patterns -/

variable {length : ℕ} {p : Pattern} {c after : Cursor}

/-- A pattern leads at least as far as its least width. -/
theorem leastWidth_le_of_mem_ends (h : after ∈ p.ends length c) :
    c.position + p.leastWidth ≤ after.position := by
  induction p generalizing c after with
  | char test =>
    obtain ⟨x, rest, -, -, rfl⟩ := mem_ends_char.1 h
    exact Nat.le_refl _
  | seq p q ihp ihq =>
    obtain ⟨mid, hmid, hafter⟩ := mem_ends_seq.1 h
    have hp := ihp hmid
    have hq := ihq hafter
    unfold leastWidth
    omega
  | alt p q ihp ihq =>
    unfold leastWidth
    rcases mem_ends_alt.1 h with h | h
    · have := ihp h
      omega
    · have := ihq h
      omega
  | chars test least most kind => exact add_le_of_mem_endsChars h
  | repeated p least most kind ih =>
    have hwidth : ∀ c, ∀ after ∈ p.ends length c, c.position + p.leastWidth ≤ after.position :=
      fun _ _ h => ih h
    have hleads : ∀ c, ∀ after ∈ p.ends length c, c.Reaches after := fun _ _ h => reaches_of_mem_ends h
    cases kind with
    | greedy => exact add_mul_le_of_mem_endsGreedy hwidth hleads h
    | reluctant => exact add_mul_le_of_mem_endsReluctant hwidth hleads h
    | possessive =>
      exact add_mul_le_of_runPossessive hwidth hleads (fun _ _ => mem_ends_of_run_some)
        (Option.mem_toList.1 h)
  | capture index p ih =>
    obtain ⟨stop, hstop, rfl⟩ := mem_ends_capture.1 h
    show c.position + p.leastWidth ≤ stop.position
    exact ih hstop
  | atomic p ih => exact ih (List.mem_of_head? (Option.mem_toList.1 h))
  | ifCaptured index yes no ihyes ihno =>
    unfold ends at h
    unfold leastWidth
    split at h
    · have := ihyes h
      omega
    · have := ihno h
      omega
  -- nothing is asked of the others but that they do not go back
  | empty | never | ahead | behind | «recall» | anchor => exact (reaches_of_mem_ends h).position_le

variable {text : List Char} {found : Found}

/-- A match begins at least as far from the end of its text as the pattern is wide. -/
theorem Found.Splits.start_add_leastWidth_le (h : found.Splits p text) :
    found.start.position + p.leastWidth ≤ text.length := by
  have hwidth := leastWidth_le_of_mem_ends (List.mem_of_head? h.stop)
  obtain ⟨-, hstop⟩ := h.positions
  have hlength := congrArg List.length h.eq
  rw [List.length_append, List.length_append, List.length_reverse] at hlength
  omega

end CodeReview.Pattern
