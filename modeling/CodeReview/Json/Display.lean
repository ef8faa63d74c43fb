/-
Values as a reader sees them in a message. A text is shown as it is; inside an array or an object it
is quoted.
-/
import CodeReview.Json.Basic
import CodeReview.Number.Integer
import CodeReview.Number.Shortest
import CodeReview.Text.Quoted

namespace CodeReview.Json

mutual

/-- A value inside another. -/
def inner : Json → List Char
  | .null => "None".toList
  | .bool b => if b then "True".toList else "False".toList
  | .int i => Integer.text i
  | .float x => x.text
  | .string s => Text.quoted s.toList
  | .array [] => ['[', ']']
  | .array (item :: items) => '[' :: inner item ++ innerItems items ++ [']']
  | .object [] => ['{', '}']
  | .object ((key, value) :: members) =>
    '{' :: Text.quoted key.toList ++ ':' :: ' ' :: inner value ++ innerMembers members ++ ['}']

def innerItems : List Json → List Char
  | [] => []
  | item :: items => ',' :: ' ' :: inner item ++ innerItems items

def innerMembers : List (String × Json) → List Char
  | [] => []
  | (key, value) :: members =>
    ',' :: ' ' :: Text.quoted key.toList ++ ':' :: ' ' :: inner value ++ innerMembers members

end

/-- A value as the text of a message. -/
def display : Json → String
  | .string s => s
  | value => String.ofList value.inner

end CodeReview.Json
