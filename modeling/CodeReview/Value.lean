/-
The values that settings are made of: those of a JSON text and, beyond them, dates, moments, bytes,
pairs and sets, and maps whose keys are not texts.
-/
import CodeReview.Json.Basic
import CodeReview.Number.Amount
import CodeReview.Text.Utf8
import CodeReview.Time.Moment

namespace CodeReview

inductive Value where
  | null
  | bool (value : Bool)
  | int (value : Int)
  | float (value : Double)
  | string (value : String)
  | bytes (value : Text.Bytes)
  | date (value : Date)
  | moment (value : Moment)
  | pair (first second : Value)
  | list (items : List Value)
  | set (members : List Value)
  | map (entries : List (Value × Value))
  deriving Repr, Inhabited

namespace Value

/-- The number that a value counts as; a truth value counts as one or zero. -/
def amount? : Value → Option Amount
  | .bool b => some (.int (if b then 1 else 0))
  | .int i => some (.int i)
  | .float x => some (.float x)
  | _ => none

/-- Two keys of a map are the same key. Numbers are compared by what they stand for; lists, sets and
maps are no keys. -/
def sameKey (x y : Value) : Bool :=
  match x, y with
  | .null, .null => true
  | .string s, .string t => s == t
  | .bytes s, .bytes t => s == t
  | .date d, .date e => d == e
  | .moment m, .moment n =>
    m.offset.isSome == n.offset.isSome && m.instant == n.instant
  | x, y => match x.amount?, y.amount? with
    | some a, some b => a.same b
    | _, _ => false

/-- The value can be a key. -/
def isKey : Value → Bool
  | .list _ | .set _ | .map _ => false
  | .pair x y => x.isKey && y.isKey
  | _ => true

/-- The value under a key. -/
def lookup (key : Value) : List (Value × Value) → Option Value
  | [] => none
  | (k, v) :: rest => if k.sameKey key then some v else lookup key rest

/-- The entries with `key` holding `value`: in its place where there is one, else at the end. -/
def insert (key value : Value) : List (Value × Value) → List (Value × Value)
  | [] => [(key, value)]
  | (k, v) :: rest => if k.sameKey key then (k, value) :: rest else (k, v) :: insert key value rest

/-- A value that counts as absent: null, false, zero, and whatever holds nothing. -/
def isEmpty : Value → Bool
  | .null => true
  | .bool b => !b
  | .int i => i == 0
  | .float x => x.same (.finite 0)
  | .string s => s.isEmpty
  | .bytes b => b.isEmpty
  | .list items | .set items => items.isEmpty
  | .map entries => entries.isEmpty
  | .date _ | .moment _ | .pair .. => false

/-- What a value yields one by one: the characters of a text, the items of a list, the keys of a
map. -/
def elements? : Value → Option (List Value)
  | .string s => some (s.toList.map fun c => .string c.toString)
  | .bytes b => some (b.map fun n => .int n.toNat)
  | .list items | .set items => some items
  | .pair x y => some [x, y]
  | .map entries => some (entries.map (·.1))
  | _ => none

/-- The entry under a text, in a map. -/
def get? (key : String) : Value → Option Value
  | .map entries => lookup (.string key) entries
  | _ => none

def string? : Value → Option String
  | .string s => some s
  | _ => none

mutual

/-- A JSON value as a setting. -/
def ofJson : Json → Value
  | .null => .null
  | .bool b => .bool b
  | .int i => .int i
  | .float x => .float x
  | .string s => .string s
  | .array items => .list (ofItems items)
  | .object members => .map (ofMembers members)

def ofItems : List Json → List Value
  | [] => []
  | item :: items => ofJson item :: ofItems items

def ofMembers : List (String × Json) → List (Value × Value)
  | [] => []
  | (key, value) :: members => (.string key, ofJson value) :: ofMembers members

end

end Value

end CodeReview
