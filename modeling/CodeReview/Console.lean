/-
What is shown to the one who calls the program, before it is laid out for a screen: lines with marks
for their colours, reports, tables, and what the program is busy with. As plain text it has no colours,
reports stand as they are, and tables have their cells one under the other.
-/
import CodeReview.Text.Lines

namespace CodeReview

structure Table where
  title : String
  columns : List String
  rows : List (List String)
  deriving DecidableEq, Repr

inductive Shown where
  /-- A text as it is, without marks and without a line end of its own. -/
  | text (text : String)
  | line (text : String)
  | report (markdown : String)
  | table (table : Table)
  | status (text : String)
  deriving DecidableEq, Repr

namespace Shown

/-- A text in a colour. -/
def colored (color text : String) : String := "[" ++ color ++ "]" ++ text ++ "[/" ++ color ++ "]"

end Shown

/-! ## As plain text -/

namespace Table

/-- The width of a column: that of its widest cell. -/
def columnWidth (t : Table) (index : Nat) : Nat :=
  ((t.columns :: t.rows).map fun row => (row.getD index "").length).foldl max 0

/-- A row with its cells filled up to the widths of the columns. -/
def rowLine (t : Table) (row : List String) : String :=
  "  ".intercalate (row.mapIdx fun index cell =>
    cell.pushn ' ' (t.columnWidth index - cell.length))

def plain (t : Table) : String :=
  "\n".intercalate (t.title :: (t.columns :: t.rows).map t.rowLine)

end Table

namespace Shown

/-- A character of a mark for a colour. -/
def isMarkChar (c : Char) : Bool := c.isLower || c == '/' || c == ' '

/-- The text without marks; `skipped` characters of a mark are still to be passed over. -/
def withoutMarks (skipped : Nat) : List Char → List Char
  | [] => []
  | c :: rest =>
    match skipped with
    | skipped + 1 => withoutMarks skipped rest
    | 0 =>
      let mark := rest.takeWhile isMarkChar
      if c = '[' && !mark.isEmpty && rest[mark.length]? = some ']' then
        withoutMarks (mark.length + 1) rest
      else c :: withoutMarks 0 rest

def unmarked (text : String) : String := String.ofList (withoutMarks 0 text.toList)

/-- What is shown, as a text that ends its own lines. -/
def plain : Shown → String
  | .text s => s
  | .line s => unmarked s ++ "\n"
  | .report s => s ++ "\n"
  | .table t => ({ t with rows := t.rows.map (·.map unmarked) } : Table).plain ++ "\n"
  | .status s => s ++ "\n"

end Shown

end CodeReview
