/-
Writing JSON texts: ASCII only, two blanks of indentation a level, one item or member a line. An
empty array or object stays on its line. `Json.write` refuses a value with an integer that is too
long, or with an array or object that lies too deep.
-/
import CodeReview.Json.Basic
import CodeReview.Number.Integer
import CodeReview.Number.Power
import CodeReview.Number.Shortest
import CodeReview.Text.Quoted

namespace CodeReview.Json

/-- A code unit as an escape. -/
def writeUnit (n : Nat) : List Char := '\\' :: 'u' :: Text.hexPadded 4 n

/-- A character as it stands between quotes; one beyond the first plane is a pair of units, and half of
a pair is one unit. -/
def writeChar (c : Char) : List Char :=
  match c with
  | '"' => ['\\', '"']
  | '\\' => ['\\', '\\']
  | '\n' => ['\\', 'n']
  | '\r' => ['\\', 'r']
  | '\t' => ['\\', 't']
  | '\x0c' => ['\\', 'f']
  | '\x08' => ['\\', 'b']
  | _ =>
    let n := Text.codePoint c
    if 0x20 ≤ n && n < 0x7F then [c]
    else if n < 0x10000 then writeUnit n
    else writeUnit (0xD800 + (n - 0x10000) / 1024) ++ writeUnit (0xDC00 + (n - 0x10000) % 1024)

/-- A text between quotes. -/
def writeString (s : List Char) : List Char := '"' :: s.flatMap writeChar ++ ['"']

/-- The text of a number that is not an integer. -/
def writeFloat : Double → List Char
  | .infinity negative => if negative then "-Infinity".toList else "Infinity".toList
  | .nan => "NaN".toList
  | x => x.text

/-- A line feed and the indentation of a level. -/
def newLine (level : Nat) : List Char := '\n' :: List.replicate (2 * level) ' '

mutual

/-- A value whose first line stands at the given level. -/
def writeAt (level : Nat) : Json → List Char
  | .null => "null".toList
  | .bool b => if b then "true".toList else "false".toList
  | .int i => Integer.text i
  | .float x => writeFloat x
  | .string s => writeString s.toList
  | .array [] => ['[', ']']
  | .array (item :: items) =>
    '[' :: newLine (level + 1) ++ writeAt (level + 1) item ++ writeItems (level + 1) items ++
      newLine level ++ [']']
  | .object [] => ['{', '}']
  | .object ((key, value) :: members) =>
    '{' :: newLine (level + 1) ++ writeString key.toList ++ ':' :: ' ' ::
      writeAt (level + 1) value ++ writeMembers (level + 1) members ++ newLine level ++ ['}']

/-- Further items, each after a comma. -/
def writeItems (level : Nat) : List Json → List Char
  | [] => []
  | item :: items => ',' :: newLine level ++ writeAt level item ++ writeItems level items

/-- Further members, each after a comma. -/
def writeMembers (level : Nat) : List (String × Json) → List Char
  | [] => []
  | (key, value) :: members =>
    ',' :: newLine level ++ writeString key.toList ++ ':' :: ' ' :: writeAt level value ++
      writeMembers level members

end

/-- The text of a value, however long its integers are and however deep it is nested. -/
def text (value : Json) : List Char := writeAt 0 value

/-! ## What is not written -/

/-- Why a value is not written. -/
inductive WriteError where
  | integerTooLong
  | nestedTooDeep
  deriving DecidableEq, Repr

mutual

/-- What keeps a value from being written where `depth` more levels may open: the first integer that
is too long, or the first array or object that lies too deep. -/
def obstacle? (depth : Nat) : Json → Option WriteError
  | .int i => if tenTo Integer.maxDigits ≤ i.natAbs then some .integerTooLong else none
  | .array items =>
    match depth with
    | 0 => some .nestedTooDeep
    | depth + 1 => obstacleInItems? depth items
  | .object members =>
    match depth with
    | 0 => some .nestedTooDeep
    | depth + 1 => obstacleInMembers? depth members
  | _ => none

def obstacleInItems? (depth : Nat) : List Json → Option WriteError
  | [] => none
  | item :: items => (obstacle? depth item).or (obstacleInItems? depth items)

def obstacleInMembers? (depth : Nat) : List (String × Json) → Option WriteError
  | [] => none
  | (_, value) :: members => (obstacle? depth value).or (obstacleInMembers? depth members)

end

/-- The text of a value that can be written. -/
def write (value : Json) : Except WriteError (List Char) :=
  match value.obstacle? maxDepth with
  | some e => .error e
  | none => .ok value.text

end CodeReview.Json
