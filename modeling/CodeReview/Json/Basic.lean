/-
The values of a JSON text. The members of an object keep the order in which they were first given,
and integers are kept apart from numbers written with a point or an exponent.
-/
import CodeReview.Number.Double

namespace CodeReview

inductive Json where
  | null
  | bool (value : Bool)
  | int (value : Int)
  | float (value : Double)
  | string (value : String)
  | array (items : List Json)
  | object (members : List (String × Json))
  deriving Repr, Inhabited

namespace Json

/-- Arrays and objects may be nested this deep in a text that is read and in a value that is
written. -/
def maxDepth : Nat := 990

/-- The value of the member `key`. -/
def lookup (key : String) : List (String × Json) → Option Json
  | [] => none
  | (k, v) :: rest => if k = key then some v else lookup key rest

/-- The members with `key` holding `value`: in its place where there is one, else at the end. -/
def insert (key : String) (value : Json) : List (String × Json) → List (String × Json)
  | [] => [(key, value)]
  | (k, v) :: rest => if k = key then (key, value) :: rest else (k, v) :: insert key value rest

/-- The member `key` of an object. -/
def get? (key : String) : Json → Option Json
  | .object members => lookup key members
  | _ => none

/-- A value that counts as absent: null, false, zero, and the empty text, array and object. -/
def isEmpty : Json → Bool
  | .null => true
  | .bool b => !b
  | .int i => i == 0
  | .float x => x.same (.finite 0)
  | .string s => s.isEmpty
  | .array items => items.isEmpty
  | .object members => members.isEmpty

/-- The text of a JSON string. -/
def string? : Json → Option String
  | .string s => some s
  | _ => none

end Json

end CodeReview
