/-
Lines. A text is cut at every line feed, so a text without one is one line and the lines joined
again give the text back. A file's text may end its lines in other ways; `normalizeNewlines` turns
those into line feeds.
-/

namespace CodeReview.Text

/-- The pieces of a text between the occurrences of `sep`; there is always a first piece. -/
def splitOnChar (sep : Char) : List Char → List (List Char)
  | [] => [[]]
  | c :: rest =>
    if c = sep then [] :: splitOnChar sep rest
    else match splitOnChar sep rest with
      | piece :: pieces => (c :: piece) :: pieces
      | [] => [[c]]

/-- The pieces of a text joined with `sep` between them. -/
def joinWithChar (sep : Char) : List (List Char) → List Char
  | [] => []
  | [piece] => piece
  | piece :: pieces => piece ++ sep :: joinWithChar sep pieces

/-- The lines of a text. -/
def lines (text : List Char) : List (List Char) := splitOnChar '\n' text

/-- A text with the given lines. -/
def unlines (pieces : List (List Char)) : List Char := joinWithChar '\n' pieces

/-- A carriage return, alone or before a line feed, becomes one line feed. -/
def normalizeNewlines : List Char → List Char
  | '\r' :: '\n' :: rest => '\n' :: normalizeNewlines rest
  | c :: rest => (if c = '\r' then '\n' else c) :: normalizeNewlines rest
  | [] => []

theorem splitOnChar_ne_nil (sep : Char) (text : List Char) : splitOnChar sep text ≠ [] := by
  cases text with
  | nil => simp [splitOnChar]
  | cons c rest =>
    unfold splitOnChar
    split
    · simp
    · split <;> simp

/-- Joining the pieces of a text gives the text. -/
theorem joinWithChar_splitOnChar (sep : Char) (text : List Char) :
    joinWithChar sep (splitOnChar sep text) = text := by
  induction text with
  | nil => rfl
  | cons c rest ih =>
    unfold splitOnChar
    have hne := splitOnChar_ne_nil sep rest
    generalize splitOnChar sep rest = pieces at ih hne
    cases pieces with
    | nil => exact absurd rfl hne
    | cons piece more =>
      split
      · subst_vars; simp [joinWithChar]
      · cases more <;> simp_all [joinWithChar]

theorem unlines_lines (text : List Char) : unlines (lines text) = text :=
  joinWithChar_splitOnChar '\n' text

end CodeReview.Text
