/-
Pages: a YAML text as far as it is written, with what decides how the next piece is joined to it.
-/

namespace CodeReview.Yaml

structure Page where
  text : List Char := []
  column : Nat := 0
  /-- What is written next needs no blank before it. -/
  spaced : Bool := true
  /-- Nothing stands on the line but what opens entries. -/
  indented : Bool := true
  deriving Repr

namespace Page

/-- Lines are folded where they have more characters than this. -/
def width : Nat := 80

/-- How much deeper each level stands. -/
def step : Nat := 2

/-- The page with some characters of a scalar. -/
def put (chars : List Char) (p : Page) : Page :=
  { text := p.text ++ chars, column := p.column + chars.length, spaced := false, indented := false }

/-- The page with a mark, after a blank if the mark stands apart from what is before it. A mark that
opens an entry leaves the line open for another. -/
def mark (chars : String) (apart opens : Bool) (p : Page) : Page :=
  let chars := if apart && !p.spaced then ' ' :: chars.toList else chars.toList
  { text := p.text ++ chars, column := p.column + chars.length, spaced := false,
    indented := p.indented && opens }

/-- The page with a new line. -/
def breakLine (p : Page) : Page := { text := p.text ++ ['\n'] }

/-- The page with its line filled up with blanks to a column. -/
def fillTo (column : Nat) (p : Page) : Page :=
  if p.column < column then
    { p with
      text := p.text ++ List.replicate (column - p.column) ' '
      column
      spaced := true }
  else p

/-- The page with the next piece to begin at a column, on a new line unless this one is free. -/
def indentTo (column : Nat) (p : Page) : Page :=
  let isFree := p.indented && (p.column < column || (p.column == column && p.spaced))
  (if isFree then p else p.breakLine).fillTo column

end Page

end CodeReview.Yaml
