/-
Matching makes no characters. A pattern moves over the characters of a text and remembers some of them
(`within_of_mem_ends`), so what a match consists of, what stands around it, and what it remembers has any
property that all characters of the text have (`Found.Splits.within`). Where matches are replaced, the new
text has it if the replacements have (`replaceFirst_within`, `replaceAll_within`).
-/
import CodeReview.Proofs.Pattern.Finding

namespace CodeReview.Pattern

variable {P : Char → Prop}

/-! ## Places -/

/-- The characters around a place, and those that are remembered there, have a property. -/
structure Cursor.Within (P : Char → Prop) (c : Cursor) : Prop where
  before : ∀ x ∈ c.before, P x
  rest : ∀ x ∈ c.rest, P x
  captures : ∀ index text, c.captured? index = some text → ∀ x ∈ text, P x

namespace Cursor.Within

variable {c after : Cursor}

/-- A place at which nothing is remembered. -/
theorem of_chars {before rest : List Char} (position : ℕ) (hbefore : ∀ x ∈ before, P x)
    (hrest : ∀ x ∈ rest, P x) : (⟨before, rest, position, []⟩ : Cursor).Within P := by
  refine ⟨hbefore, hrest, fun index text htext => ?_⟩
  cases htext

/-- The place behind some of the characters that are left. -/
theorem past {part rest : List Char} (h : c.Within P) (hrest : c.rest = part ++ rest) :
    (c.past part rest).Within P := by
  obtain ⟨hpart, hmore⟩ := List.forall_mem_append.1 (hrest ▸ h.rest)
  refine ⟨fun x hx => ?_, hmore, h.captures⟩
  rcases List.mem_append.1 hx with hx | hx
  · exact hpart x (List.mem_reverse.1 hx)
  · exact h.before x hx

theorem back (h : c.Within P) : c.back.Within P := by
  unfold Cursor.back
  split
  · exact h
  · next x before hbefore =>
    obtain ⟨hx, hmore⟩ := List.forall_mem_cons.1 (hbefore ▸ h.before)
    exact ⟨hmore, List.forall_mem_cons.2 ⟨hx, h.rest⟩, h.captures⟩

theorem backBy {width : ℕ} (h : c.Within P) (hback : Cursor.backBy width c = some after) :
    after.Within P := by
  induction width generalizing c with
  | zero => exact Option.some.inj hback ▸ h
  | succ width ih =>
    unfold Cursor.backBy at hback
    split at hback
    · cases hback
    · exact ih h.back hback

/-- A place with what is remembered at another. -/
theorem withCaptures (h : c.Within P) (hafter : after.Within P) :
    ({ c with captures := after.captures } : Cursor).Within P :=
  ⟨h.before, h.rest, hafter.captures⟩

theorem remember (h : c.Within P) (index width : ℕ) : (c.remember index width).Within P := by
  refine ⟨h.before, h.rest, fun i text htext x hx => ?_⟩
  have hlookup : ((index, (c.before.take width).reverse) :: c.captures).lookup i = some text := htext
  rw [List.lookup_cons] at hlookup
  split at hlookup
  · obtain rfl := Option.some.inj hlookup
    exact h.before x (List.mem_of_mem_take (List.mem_reverse.1 hx))
  · exact h.captures i text hlookup x hx

end Cursor.Within

/-! ## Patterns -/

section Ends

variable {length : ℕ} {c after : Cursor}

theorem Cursor.Within.of_mem_lookedAround {negated : Bool} {seen : Option Cursor} (h : c.Within P)
    (hseen : ∀ stop ∈ seen, stop.Within P) (hafter : after ∈ lookedAround negated c seen) :
    after.Within P := by
  rcases eq_or_eq_of_mem_lookedAround hafter with rfl | ⟨stop, hstop, rfl⟩
  · exact h
  · exact h.withCaptures (hseen stop hstop)

/-- From a place where all characters have the property, a pattern leads to such places only. -/
theorem within_of_mem_ends {p : Pattern} (h : c.Within P) (hafter : after ∈ p.ends length c) :
    after.Within P := by
  induction p generalizing c after with
  | empty => exact List.mem_singleton.1 hafter ▸ h
  | never => cases hafter
  | char test =>
    obtain ⟨x, rest, hrest, -, rfl⟩ := mem_ends_char.1 hafter
    exact h.past hrest
  | seq p q ihp ihq =>
    obtain ⟨mid, hmid, hafter⟩ := mem_ends_seq.1 hafter
    exact ihq (ihp h hmid) hafter
  | alt p q ihp ihq =>
    rcases mem_ends_alt.1 hafter with hafter | hafter
    · exact ihp h hafter
    · exact ihq h hafter
  | chars test least most kind =>
    obtain ⟨part, rest, hrest, rfl⟩ := past_of_mem_endsChars hafter
    exact h.past hrest
  | repeated p least most kind ih =>
    exact keeps_of_mem_ends_repeated (fun _ hc _ hafter => ih hc hafter) h hafter
  | capture index p ih =>
    obtain ⟨stop, hstop, rfl⟩ := mem_ends_capture.1 hafter
    exact (ih h hstop).remember _ _
  | atomic p ih => exact ih h (List.mem_of_head? (Option.mem_toList.1 hafter))
  | ahead negated p ih =>
    exact h.of_mem_lookedAround (fun stop hstop => ih h (List.mem_of_head? hstop)) hafter
  | behind negated width p ih =>
    refine h.of_mem_lookedAround (fun stop hseen => ?_) hafter
    obtain ⟨start, hstart, hstop⟩ := Option.bind_eq_some_iff.1 hseen
    exact ih (h.backBy hstart) (List.mem_of_head? hstop)
  | «recall» index letters =>
    obtain ⟨text, -, hrun⟩ := Option.bind_eq_some_iff.1 (Option.mem_toList.1 hafter)
    obtain ⟨part, rest, hrest, rfl⟩ := past_of_runText hrun
    exact h.past hrest
  | ifCaptured index yes no ihyes ihno =>
    unfold ends at hafter
    split at hafter
    · exact ihyes h hafter
    · exact ihno h hafter
  | anchor place =>
    obtain ⟨-, rfl⟩ := mem_ends_anchor.1 hafter
    exact h

end Ends

/-! ## Matches -/

/-- The characters around both ends of a match, and those that it remembers, have a property. -/
structure Found.Within (P : Char → Prop) (found : Found) : Prop where
  start : found.start.Within P
  stop : found.stop.Within P

namespace Found.Within

variable {found : Found}

theorem text (h : found.Within P) : ∀ x ∈ found.text, P x := fun x hx =>
  h.stop.before x (List.mem_of_mem_take (List.mem_reverse.1 hx))

theorem group (h : found.Within P) (index : ℕ) : ∀ x ∈ found.group index, P x := by
  intro x hx
  unfold Found.group at hx
  cases htext : found.stop.captured? index with
  | none =>
    rw [htext] at hx
    cases hx
  | some text =>
    rw [htext] at hx
    exact h.stop.captures index text htext x hx

end Found.Within

variable {p : Pattern} {found : Found} {text : List Char}

theorem Found.Splits.within (h : found.Splits p text) (htext : ∀ x ∈ text, P x) : found.Within P := by
  have hstart : found.start.Within P := by
    rw [h.eq, List.append_assoc] at htext
    obtain ⟨hbefore, hrest⟩ := List.forall_mem_append.1 htext
    rw [h.start]
    exact .of_chars _ (by simpa using hbefore) hrest
  exact ⟨hstart, within_of_mem_ends hstart (List.mem_of_head? h.stop)⟩

/-! ## Replacing -/

variable {change : Found → List Char} (hchange : ∀ found : Found, found.Within P → ∀ x ∈ change found, P x)

include hchange

theorem replaceFirst_within (h : ∀ x ∈ text, P x) : ∀ x ∈ p.replaceFirst change text, P x := by
  unfold replaceFirst
  split
  · exact h
  · next found hfound =>
    have hwithin := (splits_of_search hfound).within h
    intro x hx
    rcases List.mem_append.1 hx with hx | hx
    · rcases List.mem_append.1 hx with hx | hx
      · exact hwithin.start.before x (List.mem_reverse.1 hx)
      · exact hchange found hwithin x hx
    · exact hwithin.stop.rest x hx

theorem replaceMatches_within {position : ℕ} {rest : List Char} {matches' : List Found}
    (hrest : ∀ x ∈ rest, P x) (hmatches : ∀ found ∈ matches', found.Within P) :
    ∀ x ∈ replaceMatches change position rest matches', P x := by
  induction matches' generalizing position rest with
  | nil => exact hrest
  | cons found more ih =>
    obtain ⟨hfound, hmore⟩ := List.forall_mem_cons.1 hmatches
    intro x hx
    unfold replaceMatches at hx
    rcases List.mem_append.1 hx with hx | hx
    · rcases List.mem_append.1 hx with hx | hx
      · exact hrest x (List.mem_of_mem_take hx)
      · exact hchange found hfound x hx
    · exact ih (fun y hy => hrest y (List.mem_of_mem_drop hy)) hmore x hx

theorem replaceAll_within (h : ∀ x ∈ text, P x) : ∀ x ∈ p.replaceAll change text, P x :=
  replaceMatches_within hchange h fun _ hfound => (splits_of_mem_all hfound).within h

end CodeReview.Pattern
