/-
The lines of a file as they stand in it. A row is a line with what ends it: a line feed, a carriage
return or both, or nothing at the end of the file. The rows of a text are all of it (`flatMap_rows`), and
their lines are those of the text when it is read (`map_line_rows`).
-/
import CodeReview.Proofs.Disk.Walk

namespace CodeReview.Text

/-! ## Lines -/

/-- The character is no part of what ends a line. -/
def IsInLine (c : Char) : Prop := c ≠ '\n' ∧ c ≠ '\r'

theorem mem_unlines {pieces : List (List Char)} {c : Char} (h : c ∈ unlines pieces) :
    c = '\n' ∨ ∃ piece ∈ pieces, c ∈ piece := by
  unfold unlines at h
  induction pieces with
  | nil => cases h
  | cons piece pieces ih =>
    cases pieces with
    | nil => exact .inr ⟨piece, List.mem_cons_self .., h⟩
    | cons next pieces =>
      have hjoin : joinWithChar '\n' (piece :: next :: pieces) =
          piece ++ '\n' :: joinWithChar '\n' (next :: pieces) := rfl
      rw [hjoin, List.mem_append, List.mem_cons] at h
      rcases h with h | rfl | h
      · exact .inr ⟨piece, List.mem_cons_self .., h⟩
      · exact .inl rfl
      · rcases ih h with rfl | ⟨other, hother, hc⟩
        · exact .inl rfl
        · exact .inr ⟨other, List.mem_cons_of_mem _ hother, hc⟩

theorem lines_unlines {pieces : List (List Char)} (hne : pieces ≠ [])
    (h : ∀ piece ∈ pieces, '\n' ∉ piece) : lines (unlines pieces) = pieces := by
  unfold lines unlines
  induction pieces with
  | nil => exact absurd rfl hne
  | cons piece pieces ih =>
    obtain ⟨hpiece, hpieces⟩ := List.forall_mem_cons.1 h
    cases pieces with
    | nil => exact splitOnChar_of_notMem hpiece
    | cons next pieces =>
      have hjoin : joinWithChar '\n' (piece :: next :: pieces) =
          piece ++ '\n' :: joinWithChar '\n' (next :: pieces) := rfl
      rw [hjoin, splitOnChar_append_cons hpiece, ih (List.cons_ne_nil _ _) hpieces]

theorem return_notMem_normalizeNewlines (text : List Char) : '\r' ∉ normalizeNewlines text := by
  fun_induction normalizeNewlines text with
  | case1 rest ih =>
    rw [List.mem_cons, not_or]
    exact ⟨by decide, ih⟩
  | case2 c rest _ ih =>
    rw [List.mem_cons, not_or]
    refine ⟨?_, ih⟩
    split
    · decide
    · next hc => exact Ne.symm hc
  | case3 => exact List.not_mem_nil

/-- The lines of a text that has been read hold nothing that ends a line. -/
theorem isInLine_of_mem_lines {text line : List Char} (hreturn : '\r' ∉ text)
    (hline : line ∈ lines text) : ∀ c ∈ line, IsInLine c := by
  intro c hc
  constructor
  · rintro rfl
    exact notMem_of_mem_splitOnChar hline hc
  · rintro rfl
    refine hreturn ?_
    rw [← unlines_lines text]
    -- a character of a piece is a character of the whole
    generalize lines text = pieces at hline
    unfold unlines
    induction pieces with
    | nil => cases hline
    | cons piece pieces ih =>
      cases pieces with
      | nil =>
        rw [List.mem_singleton.1 hline] at hc
        exact hc
      | cons next pieces =>
        show '\r' ∈ piece ++ '\n' :: joinWithChar '\n' (next :: pieces)
        rcases List.mem_cons.1 hline with rfl | hline
        · exact List.mem_append_left _ hc
        · exact List.mem_append_right _ (List.mem_cons_of_mem _ (ih hline))

/-! ## Rows -/

/-- A line and what ends it. -/
structure Row where
  line : List Char
  ending : List Char
  deriving DecidableEq, Repr

namespace Row

/-- The characters of a row. -/
def chars (row : Row) : List Char := row.line ++ row.ending

/-- The rows with a character before them. -/
def prepend (c : Char) : List Row → List Row
  | [] => [⟨[c], []⟩]
  | row :: rows => { row with line := c :: row.line } :: rows

theorem prepend_ne_nil (c : Char) (rows : List Row) : prepend c rows ≠ [] := by
  cases rows with
  | nil => exact List.cons_ne_nil _ _
  | cons row rows => exact List.cons_ne_nil _ _

end Row

/-- The rows of a text; the last one has no ending. -/
def rows : List Char → List Row
  | '\r' :: '\n' :: rest => ⟨[], ['\r', '\n']⟩ :: rows rest
  | c :: rest => if c = '\n' ∨ c = '\r' then ⟨[], [c]⟩ :: rows rest else Row.prepend c (rows rest)
  | [] => [⟨[], []⟩]

theorem rows_ne_nil (text : List Char) : rows text ≠ [] := by
  fun_cases rows text with
  | case1 rest => exact List.cons_ne_nil _ _
  | case2 c rest _ _ => exact List.cons_ne_nil _ _
  | case3 c rest _ _ => exact Row.prepend_ne_nil _ _
  | case4 => exact List.cons_ne_nil _ _

/-- Nothing is lost in the rows of a text. -/
theorem flatMap_rows (text : List Char) : (rows text).flatMap Row.chars = text := by
  fun_induction rows text with
  | case1 rest ih =>
    rw [List.flatMap_cons, ih]
    rfl
  | case2 c rest _ _ ih =>
    rw [List.flatMap_cons, ih]
    rfl
  | case3 c rest _ _ ih =>
    obtain ⟨row, more, heq⟩ := List.exists_cons_of_ne_nil (rows_ne_nil rest)
    rw [heq, List.flatMap_cons] at ih
    rw [heq, Row.prepend, List.flatMap_cons, ← ih]
    rfl
  | case4 => rfl

/-- The lines of the rows are those that are read. -/
theorem map_line_rows (text : List Char) : (rows text).map Row.line = lines (normalizeNewlines text) := by
  unfold lines
  fun_induction rows text with
  | case1 rest ih =>
    rw [List.map_cons, ih, normalizeNewlines, splitOnChar, if_pos rfl]
  | case2 c rest hreturn hc ih =>
    have hfeed : (if c = '\r' then '\n' else c) = '\n' := by
      rcases hc with rfl | rfl <;> rfl
    rw [List.map_cons, ih, normalizeNewlines.eq_2 c rest hreturn, hfeed, splitOnChar, if_pos rfl]
  | case3 c rest hreturn hc ih =>
    rw [not_or] at hc
    obtain ⟨row, more, heq⟩ := List.exists_cons_of_ne_nil (rows_ne_nil rest)
    rw [heq, List.map_cons] at ih
    rw [heq, Row.prepend, List.map_cons, normalizeNewlines.eq_2 c rest hreturn, if_neg hc.2, splitOnChar,
      if_neg hc.1, ← ih]
  | case4 => rfl

theorem ending_eq_nil_iff_cons {first row : Row} {more : List Row} {i : ℕ} (hmore : more ≠ [])
    (hfirst : first.ending ≠ [])
    (hlast : ∀ {i : ℕ} {row : Row}, more[i]? = some row → (row.ending = [] ↔ i + 1 = more.length))
    (h : (first :: more)[i]? = some row) :
    row.ending = [] ↔ i + 1 = (first :: more).length := by
  have hlength := List.length_pos_of_ne_nil hmore
  cases i with
  | zero =>
    obtain rfl := Option.some.inj h
    rw [List.length_cons]
    exact iff_of_false hfirst (by omega)
  | succ i =>
    rw [List.getElem?_cons_succ] at h
    rw [hlast h, List.length_cons, Nat.add_right_cancel_iff]

/-- Only the last row has no ending. -/
theorem ending_eq_nil_iff {text : List Char} {i : ℕ} {row : Row} (h : (rows text)[i]? = some row) :
    row.ending = [] ↔ i + 1 = (rows text).length := by
  fun_induction rows text generalizing i row with
  | case1 rest ih => exact ending_eq_nil_iff_cons (rows_ne_nil rest) (List.cons_ne_nil _ _) ih h
  | case2 c rest _ _ ih => exact ending_eq_nil_iff_cons (rows_ne_nil rest) (List.cons_ne_nil _ _) ih h
  | case3 c rest _ _ ih =>
    obtain ⟨first, more, heq⟩ := List.exists_cons_of_ne_nil (rows_ne_nil rest)
    rw [heq] at ih h ⊢
    cases i with
    | zero =>
      obtain rfl := Option.some.inj h
      have hfirst : first.ending = [] ↔ 0 + 1 = (first :: more).length := ih rfl
      exact hfirst
    | succ i => exact ih (i := i + 1) h
  | case4 =>
    cases i with
    | zero =>
      obtain rfl := Option.some.inj h
      exact iff_of_true rfl rfl
    | succ i => cases h

/-- A row ends in one of three ways, or not at all. -/
theorem ending_of_mem_rows {text : List Char} {row : Row} (h : row ∈ rows text) :
    row.ending = [] ∨ row.ending = ['\n'] ∨ ('\r' ∈ row.ending ∧ '\r' ∈ text) := by
  fun_induction rows text generalizing row with
  | case1 rest ih =>
    rcases List.mem_cons.1 h with rfl | h
    · exact .inr (.inr ⟨List.mem_cons_self .., List.mem_cons_self ..⟩)
    · refine (ih h).imp_right (Or.imp_right fun hreturn => ⟨hreturn.1, ?_⟩)
      exact List.mem_cons_of_mem _ (List.mem_cons_of_mem _ hreturn.2)
  | case2 c rest _ hc ih =>
    rcases List.mem_cons.1 h with rfl | h
    · rcases hc with rfl | rfl
      · exact .inr (.inl rfl)
      · exact .inr (.inr ⟨List.mem_cons_self .., List.mem_cons_self ..⟩)
    · exact (ih h).imp_right (Or.imp_right fun hreturn =>
        ⟨hreturn.1, List.mem_cons_of_mem _ hreturn.2⟩)
  | case3 c rest _ _ ih =>
    obtain ⟨first, more, heq⟩ := List.exists_cons_of_ne_nil (rows_ne_nil rest)
    rw [heq] at ih h
    have hending : ∃ row' ∈ first :: more, row'.ending = row.ending := by
      rcases List.mem_cons.1 h with rfl | h
      · exact ⟨first, List.mem_cons_self .., rfl⟩
      · exact ⟨row, List.mem_cons_of_mem _ h, rfl⟩
    obtain ⟨row', hrow', hsame⟩ := hending
    rw [← hsame]
    exact (ih hrow').imp_right (Or.imp_right fun hreturn =>
      ⟨hreturn.1, List.mem_cons_of_mem _ hreturn.2⟩)
  | case4 =>
    rw [List.mem_singleton.1 h]
    exact .inl rfl

/-- Where the lines of two rows are the same, and the second is of a text without carriage returns and of
as many lines, the rows are the same exactly if the first does not end in one. -/
theorem row_eq_iff {text left : List Char} {i : ℕ} {row row' : Row} (hrow : (rows text)[i]? = some row)
    (hrow' : (rows left)[i]? = some row') (hreturn : '\r' ∉ left)
    (hlength : (rows left).length = (rows text).length) (hline : row'.line = row.line) :
    row' = row ↔ '\r' ∉ row.ending := by
  have hlast := ending_eq_nil_iff hrow
  have hlast' := ending_eq_nil_iff hrow'
  rw [hlength] at hlast'
  have hsame : row' = row ↔ row'.ending = row.ending := by
    obtain ⟨line, ending⟩ := row
    obtain ⟨line', ending'⟩ := row'
    simp only [Row.mk.injEq]
    exact ⟨fun h => h.2, fun h => ⟨hline, h⟩⟩
  have hplain : row'.ending = [] ∨ row'.ending = ['\n'] :=
    (ending_of_mem_rows (List.mem_of_getElem? hrow')).imp_right fun h =>
      h.resolve_right fun hboth => hreturn hboth.2
  rw [hsame]
  constructor
  · intro heq
    rw [← heq]
    rcases hplain with h | h <;> rw [h] <;> decide
  · intro hnone
    rcases ending_of_mem_rows (List.mem_of_getElem? hrow) with h | h | h
    · rw [h, hlast', ← hlast, h]
    · rw [h]
      refine hplain.resolve_left fun hnil => ?_
      rw [hlast', ← hlast, h] at hnil
      cases hnil
    · exact absurd h.1 hnone

end CodeReview.Text
