/-
Settings as YAML texts: one entry of a mapping or a sequence a line, deeper levels further to the
right. Entries of a sequence that is the value of a key begin below the key itself.
-/
import CodeReview.Number.Integer
import CodeReview.Number.Shortest
import CodeReview.Text.Base64
import CodeReview.Time.Iso
import CodeReview.Value
import CodeReview.Yaml.ScalarWriter

namespace CodeReview.Yaml

/-! ## Scalars -/

/-- The text of a number, which always has a point. -/
def numberText (x : Double) : List Char :=
  match x with
  | .nan => ".nan".toList
  | .infinity negative => if negative then "-.inf".toList else ".inf".toList
  | x =>
    let text := x.text
    if text.contains '.' then text
    else text.flatMap fun c => if c = 'e' then ".0e".toList else [c]

/-- How many bytes stand on a line. -/
def bytesPerLine : Nat := 57

/-- The bytes in base sixty-four, line by line; `fuel` bounds the lines. -/
def base64Lines : Nat → Text.Bytes → List (List Char)
  | 0, _ => []
  | fuel + 1, bytes =>
    if bytes.isEmpty then []
    else Text.Base64.encode (bytes.take bytesPerLine) :: base64Lines fuel (bytes.drop bytesPerLine)

/-- A scalar's text where it is neither a text itself nor bytes, with the name of its kind. -/
def bareText? : Value → Option (String × List Char)
  | .null => some ("null", "null".toList)
  | .bool b => some ("bool", if b then "true".toList else "false".toList)
  | .int i => some ("int", Integer.text i)
  | .float x => some ("float", numberText x)
  | .date d => some ("timestamp", d.text)
  | .moment m => some ("timestamp", m.textWith ' ')
  | _ => none

/-- A key with its kind is shorter than this where its value follows on the line. -/
def maxKey : Nat := 128

/-- The value of a key can follow on the key's line. -/
def isSimpleKey (key : Value) : Bool :=
  match key with
  | .string s =>
    !s.isEmpty && !isMultiline s.toList && "!!str".length + s.length < maxKey
  | key => match bareText? key with
    | some (kind, text) => "!!".length + kind.length + text.length < maxKey
    | none => false

/-- A scalar below an entry at `column`. -/
def writeScalar (column : Nat) (isKey : Bool) (value : Value) (p : Page) : Page :=
  let inner := column + Page.step
  match value with
  | .string s => writeText inner isKey s.toList p
  | .bytes bytes =>
    let p := p.mark "!!binary" true false
    if bytes.isEmpty then p.mark "\"\"" true false
    else writeLiteral inner (base64Lines bytes.length bytes) p
  | value => match bareText? value with
    | some (_, text) => writeBare inner isKey text p
    | none => p

/-! ## Collections -/

/-- The column of a sequence's entries below an entry at `column`. -/
def itemColumn (column : Nat) (ofKey : Bool) (p : Page) : Nat :=
  if ofKey && !p.indented then column else column + Page.step

/-- The page with an entry of a sequence begun at a column. -/
def openItem (column : Nat) (p : Page) : Page := (p.indentTo column).mark "-" true true

/-- The page with a key at a column and the colon after it. -/
def writeKey (column : Nat) (key : Value) (p : Page) : Page :=
  let p := p.indentTo column
  if isSimpleKey key then (writeScalar column true key p).mark ":" false false
  else ((writeScalar column false key (p.mark "?" true true)).indentTo column).mark ":" true true

mutual

/-- A value below an entry at `column`; `ofKey` says that it is the value of a key. -/
def writeNode (column : Nat) (ofKey : Bool) : Value → Page → Page
  | .list [], p => p.mark "[]" true false
  | .list (item :: items), p =>
    let column := itemColumn column ofKey p
    writeItems column items (writeNode column false item (openItem column p))
  | .pair x y, p =>
    let p := p.mark "!!python/tuple" true false
    let column := itemColumn column ofKey p
    let p := writeNode column false x (openItem column p)
    writeNode column false y (openItem column p)
  | .map [], p => p.mark "\x7b\x7d" true false
  | .map ((key, value) :: entries), p =>
    let column := column + Page.step
    writeEntries column entries (writeNode column true value (writeKey column key p))
  | .set [], p => (p.mark "!!set" true false).mark "\x7b\x7d" true false
  | .set (member :: members), p =>
    let column := column + Page.step
    (member :: members).foldl
      (fun p member => writeScalar column false .null (writeKey column member p))
      (p.mark "!!set" true false)
  | value, p => writeScalar column false value p

/-- The entries of a sequence. -/
def writeItems (column : Nat) : List Value → Page → Page
  | [], p => p
  | item :: items, p => writeItems column items (writeNode column false item (openItem column p))

/-- The entries of a mapping. -/
def writeEntries (column : Nat) : List (Value × Value) → Page → Page
  | [], p => p
  | (key, value) :: entries, p =>
    writeEntries column entries (writeNode column true value (writeKey column key p))

end

/-- The entries of a mapping as a text. -/
def write (entries : List (Value × Value)) : List Char :=
  if entries.isEmpty then "\x7b\x7d\n".toList
  else ((writeEntries 0 entries {}).indentTo 0).text

end CodeReview.Yaml
