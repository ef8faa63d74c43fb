/-
Tags: what kind of value a node stands for. A plain scalar without a tag is given one by its form: a
truth value, a number, a timestamp, nothing at all, or else a text.
-/
import CodeReview.Yaml.Timestamp

namespace CodeReview.Yaml

inductive Tag where
  | null
  | bool
  | int
  | float
  | binary
  | timestamp
  | omap
  | pairs
  | set
  | str
  | seq
  | map
  /-- A key whose value is merged into its mapping. -/
  | merge
  /-- A key that stands for the value of its mapping. -/
  | default
  | other
  deriving DecidableEq, Repr

namespace Tag

/-- What the tags of the standard kinds begin with. -/
def standardHandle : String := "tag:yaml.org,2002:"

/-- The tags with their names. -/
def names : List (String × Tag) := [
  ("null", .null), ("bool", .bool), ("int", .int), ("float", .float), ("binary", .binary),
  ("timestamp", .timestamp), ("omap", .omap), ("pairs", .pairs), ("set", .set), ("str", .str),
  ("seq", .seq), ("map", .map), ("merge", .merge), ("value", .default)]

/-- The tag with a full name. -/
def ofName (name : String) : Tag :=
  ((names.find? fun (short, _) => standardHandle ++ short == name).map (·.2)).getD .other

/-! ## The forms of plain scalars -/

def isDigit (c : Char) : Bool := '0' ≤ c && c ≤ '9'

def isDigitOrLine (c : Char) : Bool := isDigit c || c == '_'

def nulls : List String := ["~", "null", "Null", "NULL", ""]

def bools : List String :=
  ["yes", "Yes", "YES", "no", "No", "NO", "true", "True", "TRUE", "false", "False", "FALSE",
    "on", "On", "ON", "off", "Off", "OFF"]

def dropSign : List Char → List Char
  | '-' :: rest => rest
  | '+' :: rest => rest
  | text => text

/-- Numbers below sixty, each after a colon, of which there is at least one; what follows them is
passed on. -/
def sexagesimals? : Nat → List Char → Option (List Char)
  | 0, _ => none
  | fuel + 1, text =>
    match text with
    | ':' :: rest =>
      let digits := (rest.take 2).takeWhile isDigit
      let width := match digits with
        | [a, _] => if '5' < a then 1 else 2
        | digits => digits.length
      if width = 0 then none
      else
        let rest := rest.drop width
        match sexagesimals? fuel rest with
        | some rest => some rest
        | none => some rest
    | _ => none

/-- The form of an integer: in base two, eight, ten, sixteen or sixty. -/
def isInt (text : List Char) : Bool :=
  match dropSign text with
  | ['0'] => true
  | '0' :: 'b' :: digits => !digits.isEmpty && digits.all fun c => c == '0' || c == '1' || c == '_'
  | '0' :: 'x' :: digits => !digits.isEmpty && digits.all fun c =>
      isDigitOrLine c || ('a' ≤ c && c ≤ 'f') || ('A' ≤ c && c ≤ 'F')
  | '0' :: digits => digits.all fun c => ('0' ≤ c && c ≤ '7') || c == '_'
  | c :: rest =>
    isDigit c &&
      (rest.all isDigitOrLine ||
        sexagesimals? text.length (rest.dropWhile isDigitOrLine) == some [])
  | [] => false

/-- An exponent with its sign, or nothing. -/
def isExponent : List Char → Bool
  | [] => true
  | e :: sign :: digits =>
    (e == 'e' || e == 'E') && (sign == '+' || sign == '-') && !digits.isEmpty && digits.all isDigit
  | _ => false

/-- The form of a number with a point, or of infinity or of what is no number. -/
def isFloat (text : List Char) : Bool :=
  let unsigned := dropSign text
  [".inf", ".Inf", ".INF"].any (fun s => s.toList == unsigned) ||
    [".nan", ".NaN", ".NAN"].any (fun s => s.toList == text) ||
    (match text with
      | '.' :: c :: rest => isDigit c && isExponent (rest.dropWhile isDigitOrLine)
      | _ => false) ||
    (match unsigned with
      | c :: rest =>
        isDigit c &&
          (match rest.dropWhile isDigitOrLine with
            | '.' :: rest => isExponent (rest.dropWhile isDigitOrLine)
            | rest => match sexagesimals? text.length rest with
              | some ('.' :: rest) => rest.all isDigitOrLine
              | _ => false)
      | [] => false)

/-- The tag of a plain scalar. -/
def ofPlain (text : List Char) : Tag :=
  if nulls.contains (String.ofList text) then .null
  else if bools.contains (String.ofList text) then .bool
  else if isFloat text then .float
  else if isInt text then .int
  else if Timestamp.isPlain text then .timestamp
  else if text = ['<', '<'] then .merge
  else if text = ['='] then .default
  else .str

end Tag

end CodeReview.Yaml
