/-
Pieces of a text, between the occurrences of a character. A text is its first piece, the character and the
rest, or a single piece (`splitOnChar_induction`). What follows the last occurrence is the last piece
(`getLast?_splitOnChar`); the pieces before it are what stands between two occurrences once the character is
put in front (`mem_dropLast_splitOnChar_iff`).
-/
import CodeReview.Text.Find
import CodeReview.Text.Lines
import Mathlib.Data.List.TakeWhile
import Mathlib.Tactic

namespace CodeReview

/-- What comes before the first separator is known by the whole. -/
theorem eq_of_append_cons_eq {α : Type} {sep : α} {a b rest rest' : List α} (ha : sep ∉ a)
    (hb : sep ∉ b) (h : a ++ sep :: rest = b ++ sep :: rest') : a = b := by
  induction a generalizing b with
  | nil =>
    cases b with
    | nil => rfl
    | cons c b => cases h; exact absurd (List.mem_cons_self ..) hb
  | cons c a ih =>
    cases b with
    | nil => cases h; exact absurd (List.mem_cons_self ..) ha
    | cons c' b =>
      rw [List.cons_append, List.cons_append] at h
      obtain ⟨rfl, htail⟩ := List.cons.inj h
      rw [ih (fun h => ha (List.mem_cons_of_mem _ h)) (fun h => hb (List.mem_cons_of_mem _ h)) htail]

namespace Text

variable {sep : Char} {piece front part text rest : List Char} {pieces : List (List Char)}

/-! ## Occurrences -/

theorem startsWith_iff : startsWith text front = true ↔ front <+: text := List.isPrefixOf_iff_prefix

theorem contains_iff : contains text part = true ↔ part <:+: text := by
  induction text with
  | nil => rw [contains, List.isEmpty_iff, List.infix_nil]
  | cons c rest ih =>
    rw [contains, Bool.or_eq_true, List.isPrefixOf_iff_prefix, ih, List.infix_cons_iff]

/-- What begins with a character begins behind a text without it. -/
theorem infix_append_iff (h : sep ∉ front) : sep :: part <:+: front ++ rest ↔ sep :: part <:+: rest := by
  induction front with
  | nil => rfl
  | cons c front ih =>
    rw [List.mem_cons, not_or] at h
    rw [List.cons_append, List.infix_cons_iff, List.cons_prefix_cons, ih h.2]
    exact or_iff_right fun hhere => h.1 hhere.1

/-! ## Splitting -/

theorem splitOnChar_append_cons (h : sep ∉ piece) (rest : List Char) :
    splitOnChar sep (piece ++ sep :: rest) = piece :: splitOnChar sep rest := by
  induction piece with
  | nil =>
    show splitOnChar sep (sep :: rest) = _
    rw [splitOnChar, if_pos rfl]
  | cons c piece ih =>
    rw [List.mem_cons, not_or] at h
    rw [List.cons_append, splitOnChar, if_neg (Ne.symm h.1), ih h.2]

theorem splitOnChar_of_notMem (h : sep ∉ piece) : splitOnChar sep piece = [piece] := by
  induction piece with
  | nil => rfl
  | cons c piece ih =>
    rw [List.mem_cons, not_or] at h
    rw [splitOnChar, if_neg (Ne.symm h.1), ih h.2]

theorem splitOnChar_intercalate (hne : pieces ≠ []) (h : ∀ piece ∈ pieces, sep ∉ piece) :
    splitOnChar sep ([sep].intercalate pieces) = pieces := by
  induction pieces with
  | nil => exact absurd rfl hne
  | cons piece pieces ih =>
    cases pieces with
    | nil =>
      rw [List.intercalate_singleton]
      exact splitOnChar_of_notMem (h piece (List.mem_cons_self ..))
    | cons next pieces =>
      rw [List.intercalate_cons_cons, List.append_assoc, List.singleton_append,
        splitOnChar_append_cons (h piece (List.mem_cons_self ..)),
        ih (List.cons_ne_nil _ _) fun p hp => h p (List.mem_cons_of_mem _ hp)]

theorem splitOnChar_replicate (n : ℕ) (rest : List Char) :
    splitOnChar sep (List.replicate n sep ++ rest) = List.replicate n [] ++ splitOnChar sep rest := by
  induction n with
  | zero => rfl
  | succ n ih => rw [List.replicate_succ, List.cons_append, splitOnChar, if_pos rfl, ih]; rfl

theorem notMem_of_mem_splitOnChar {text : List Char} (h : piece ∈ splitOnChar sep text) :
    sep ∉ piece := by
  induction text generalizing piece with
  | nil =>
    rw [List.mem_singleton.1 h]
    exact List.not_mem_nil
  | cons c text ih =>
    rw [splitOnChar] at h
    split_ifs at h with hc
    · rcases List.mem_cons.1 h with rfl | h
      · exact List.not_mem_nil
      · exact ih h
    · split at h
      · next first others heq =>
        rw [heq] at ih
        rcases List.mem_cons.1 h with rfl | h
        · rw [List.mem_cons, not_or]
          exact ⟨Ne.symm hc, ih (List.mem_cons_self ..)⟩
        · exact ih (List.mem_cons_of_mem _ h)
      · rw [List.mem_singleton.1 h, List.mem_singleton]
        exact Ne.symm hc

/-! ## From piece to piece -/

/-- What holds of the texts without a character, and of each text behind whose first piece it holds, holds of
all texts. -/
theorem splitOnChar_induction (sep : Char) {motive : List Char → Prop} (whole : ∀ text, sep ∉ text → motive text)
    (cut : ∀ first rest, sep ∉ first → motive rest → motive (first ++ sep :: rest)) (text : List Char) :
    motive text := by
  induction hlength : text.length using Nat.strong_induction_on generalizing text with
  | _ n ih =>
  by_cases hsep : sep ∈ text
  · obtain ⟨first, rest, rfl, hfirst⟩ := List.eq_append_cons_of_mem hsep
    refine cut first rest hfirst (ih rest.length ?_ rest rfl)
    rw [← hlength, List.length_append, List.length_cons]
    omega
  · exact whole text hsep

/-- The pieces of two texts with the character between them. -/
theorem splitOnChar_append (sep : Char) (text rest : List Char) :
    splitOnChar sep (text ++ sep :: rest) = splitOnChar sep text ++ splitOnChar sep rest := by
  induction text using splitOnChar_induction sep with
  | whole text h => rw [splitOnChar_append_cons h, splitOnChar_of_notMem h, List.singleton_append]
  | cut first text h ih =>
    rw [List.append_assoc, List.cons_append, splitOnChar_append_cons h, splitOnChar_append_cons h, ih,
      List.cons_append]

theorem afterLast_of_notMem (h : sep ∉ text) : afterLast sep text = text := by
  unfold afterLast
  have hall : ∀ c ∈ text.reverse, decide (c ≠ sep) = true := by
    intro c hc
    rw [decide_eq_true_eq]
    rintro rfl
    exact h (List.mem_reverse.1 hc)
  rw [List.takeWhile_eq_self_iff.2 hall, List.reverse_reverse]

theorem afterLast_append_cons (sep : Char) (first rest : List Char) :
    afterLast sep (first ++ sep :: rest) = afterLast sep rest := by
  unfold afterLast
  rw [List.reverse_append, List.reverse_cons, List.append_assoc, List.singleton_append,
    List.takeWhile_append, List.takeWhile_cons_of_neg (by simp), List.append_nil]
  split_ifs with hall
  · rw [(List.takeWhile_prefix _).eq_of_length hall]
  · rfl

/-- The last piece of a text is what follows the last occurrence. -/
theorem getLast?_splitOnChar (sep : Char) (text : List Char) :
    (splitOnChar sep text).getLast? = some (afterLast sep text) := by
  induction text using splitOnChar_induction sep with
  | whole text h =>
    rw [splitOnChar_of_notMem h, afterLast_of_notMem h]
    rfl
  | cut first rest h ih =>
    rw [splitOnChar_append_cons h, afterLast_append_cons, ← ih,
      List.getLast?_cons_of_ne_nil (splitOnChar_ne_nil sep rest)]

/-- A piece before the last one stands between two occurrences, of which the first may be put in front of
the text. -/
theorem mem_dropLast_splitOnChar_iff (h : sep ∉ piece) :
    piece ∈ (splitOnChar sep text).dropLast ↔ sep :: (piece ++ [sep]) <:+: sep :: text := by
  induction text using splitOnChar_induction sep with
  | whole text hnone =>
    rw [splitOnChar_of_notMem hnone]
    refine iff_of_false List.not_mem_nil fun hinside => hnone ?_
    rw [List.infix_cons_iff, List.cons_prefix_cons] at hinside
    rcases hinside with ⟨-, hfront⟩ | hinside
    · exact hfront.subset (List.mem_append_right _ (List.mem_singleton_self _))
    · exact hinside.subset (List.mem_cons_self ..)
  | cut first rest hfirst ih =>
    have hfront : piece ++ [sep] <+: first ++ sep :: rest ↔ piece = first := by
      constructor
      · rintro ⟨more, hmore⟩
        rw [List.append_assoc, List.singleton_append] at hmore
        exact eq_of_append_cons_eq h hfirst hmore
      · rintro rfl
        exact ⟨rest, by rw [List.append_assoc, List.singleton_append]⟩
    rw [splitOnChar_append_cons hfirst, List.dropLast_cons_of_ne_nil (splitOnChar_ne_nil sep rest),
      List.mem_cons, ih, @List.infix_cons_iff _ _ sep (first ++ sep :: rest), List.cons_prefix_cons,
      and_iff_right rfl, hfront, infix_append_iff hfirst]

/-- The pieces of a text are those before the last one and what follows the last occurrence. -/
theorem mem_splitOnChar_iff : piece ∈ splitOnChar sep text ↔
    piece ∈ (splitOnChar sep text).dropLast ∨ piece = afterLast sep text := by
  have hlast := getLast?_splitOnChar sep text
  rw [List.getLast?_eq_some_iff] at hlast
  obtain ⟨init, hinit⟩ := hlast
  rw [hinit, List.dropLast_concat, List.mem_append, List.mem_singleton]

end Text

end CodeReview
