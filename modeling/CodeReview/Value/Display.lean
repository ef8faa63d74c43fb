/-
Settings as a reader sees them in a message. A text is shown as it is, a date and a moment in their
standard notation; inside another value each is shown by how it is made.
-/
import CodeReview.Number.Integer
import CodeReview.Number.Shortest
import CodeReview.Text.Quoted
import CodeReview.Time.Iso
import CodeReview.Value

namespace CodeReview.Value

/-- Parts with a comma and a blank between them. -/
def commaSeparated : List (List Char) → List Char
  | [] => []
  | [part] => part
  | part :: parts => part ++ ',' :: ' ' :: commaSeparated parts

def nats (ns : List Nat) : List (List Char) := ns.map (Nat.toDigits 10)

/-- A byte as it stands between quotes. -/
def showByte (quote : Char) (b : UInt8) : List Char :=
  if b < 0x80 then Text.quoteChar quote (Char.ofNat b.toNat)
  else '\\' :: 'x' :: Text.hexPadded 2 b.toNat

def showBytes (bytes : Text.Bytes) : List Char :=
  let quote := Text.quoteFor (bytes.map fun b => Char.ofNat b.toNat)
  'b' :: quote :: bytes.flatMap (showByte quote) ++ [quote]

def showDate (d : Date) : List Char :=
  "datetime.date(".toList ++ commaSeparated (nats [d.year, d.month, d.day]) ++ [')']

/-- An offset by its days and seconds. -/
def showOffset (offset : Int) : List Char :=
  if offset = 0 then "datetime.timezone.utc".toList
  else
    let seconds := offset / Moment.microsPerSecond
    let days := seconds / 86400
    let parts := (if days = 0 then [] else ["days=".toList ++ Integer.text days]) ++
      (if seconds % 86400 = 0 then [] else ["seconds=".toList ++ Integer.text (seconds % 86400)])
    "datetime.timezone(datetime.timedelta(".toList ++ commaSeparated parts ++ [')', ')']

def showMoment (m : Moment) : List Char :=
  let clock := if m.micro = 0 then if m.second = 0 then [] else [m.second] else [m.second, m.micro]
  let offset := match m.offset with
    | some offset => ["tzinfo=".toList ++ showOffset offset]
    | none => []
  "datetime.datetime(".toList ++ commaSeparated (nats
    ([m.date.year, m.date.month, m.date.day, m.hour, m.minute] ++ clock) ++ offset) ++ [')']

mutual

/-- A value inside another. -/
def inner : Value → List Char
  | .null => "None".toList
  | .bool b => if b then "True".toList else "False".toList
  | .int i => Integer.text i
  | .float x => x.text
  | .string s => Text.quoted s.toList
  | .bytes b => showBytes b
  | .date d => showDate d
  | .moment m => showMoment m
  | .pair x y => '(' :: inner x ++ ',' :: ' ' :: inner y ++ [')']
  | .list items => '[' :: commaSeparated (inners items) ++ [']']
  | .set [] => "set()".toList
  | .set (member :: members) => '\x7b' :: commaSeparated (inner member :: inners members) ++ ['\x7d']
  | .map entries => '\x7b' :: commaSeparated (innerEntries entries) ++ ['\x7d']

def inners : List Value → List (List Char)
  | [] => []
  | value :: values => inner value :: inners values

def innerEntries : List (Value × Value) → List (List Char)
  | [] => []
  | (key, value) :: entries => (inner key ++ ':' :: ' ' :: inner value) :: innerEntries entries

end

/-- A value as the text of a message. -/
def display : Value → String
  | .string s => s
  | .date d => String.ofList d.text
  | .moment m => String.ofList (m.textWith ' ')
  | value => String.ofList value.inner

end CodeReview.Value
