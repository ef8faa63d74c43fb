/-
Reading JSON texts. Beyond the standard, the names `NaN`, `Infinity` and `-Infinity` are numbers. A
member given twice keeps its first place and its last value; half of a surrogate pair is kept where
the other half does not follow. `Json.read` refuses a text with the reason.
-/
import CodeReview.Json.Basic
import CodeReview.Number.Integer
import CodeReview.Text.CodePoint
import CodeReview.Text.Find

namespace CodeReview.Json

/-- Why a text is no JSON value that can be held. -/
inductive ReadError where
  | malformed
  | integerTooLong
  | nestedTooDeep
  deriving DecidableEq, Repr

def isSpace (c : Char) : Bool := c == ' ' || c == '\t' || c == '\n' || c == '\r'

def skipSpace (text : List Char) : List Char := text.dropWhile isSpace

/-! ## Texts -/

/-- The value of a digit in base sixteen. -/
def hexValue? (c : Char) : Option Nat :=
  let n := c.toNat
  if 48 ≤ n && n ≤ 57 then some (n - 48)
  else if 65 ≤ n && n ≤ 70 then some (n - 55)
  else if 97 ≤ n && n ≤ 102 then some (n - 87)
  else none

/-- The code unit that four digits in base sixteen spell, and what follows them. -/
def codeUnit? : List Char → Option (Nat × List Char)
  | a :: b :: c :: d :: rest =>
    match hexValue? a, hexValue? b, hexValue? c, hexValue? d with
    | some a, some b, some c, some d => some (a * 4096 + b * 256 + c * 16 + d, rest)
    | _, _, _, _ => none
  | _ => none

/-- The character of a code unit, with the second unit of a pair taken from the text where it
follows. -/
def unitChar (unit : Nat) (rest : List Char) : Char × List Char :=
  if 0xD800 ≤ unit && unit < 0xDC00 then
    match rest with
    | '\\' :: 'u' :: more =>
      match codeUnit? more with
      | some (low, rest') =>
        if 0xDC00 ≤ low && low < 0xE000 then
          (Char.ofNat (0x10000 + (unit - 0xD800) * 1024 + (low - 0xDC00)), rest')
        else (Text.ofCodePoint unit, rest)
      | none => (Text.ofCodePoint unit, rest)
    | _ => (Text.ofCodePoint unit, rest)
  else (Text.ofCodePoint unit, rest)

/-- The character that an escape letter stands for. -/
def escaped? : Char → Option Char
  | '"' => some '"'
  | '\\' => some '\\'
  | '/' => some '/'
  | 'b' => some '\x08'
  | 'f' => some '\x0c'
  | 'n' => some '\n'
  | 'r' => some '\r'
  | 't' => some '\t'
  | _ => none

/-- The characters up to the closing quote, and what follows it. The fuel is at least the length of
the text. -/
def stringBody : Nat → List Char → Except ReadError (List Char × List Char)
  | 0, _ => .error .malformed
  | fuel + 1, text =>
    match text with
    | [] => .error .malformed
    | '"' :: rest => .ok ([], rest)
    | '\\' :: 'u' :: rest =>
      match codeUnit? rest with
      | none => .error .malformed
      | some (unit, rest) =>
        let (c, rest) := unitChar unit rest
        (stringBody fuel rest).map fun (body, rest) => (c :: body, rest)
    | '\\' :: e :: rest =>
      match escaped? e with
      | none => .error .malformed
      | some c => (stringBody fuel rest).map fun (body, rest) => (c :: body, rest)
    | c :: rest =>
      if c = '\\' || c.toNat < 0x20 then .error .malformed
      else (stringBody fuel rest).map fun (body, rest) => (c :: body, rest)

/-! ## Numbers -/

def isDecimal (c : Char) : Bool := '0' ≤ c && c ≤ '9'

/-- The digits of an integer part: a single zero, or digits that do not begin with one. -/
def integerPart? : List Char → Option (List Char × List Char)
  | '0' :: rest => some (['0'], rest)
  | c :: rest => if isDecimal c then some ((c :: rest).span isDecimal) else none
  | [] => none

/-- The digits after a point, where a point with digits follows. -/
def fractionPart : List Char → List Char × List Char
  | '.' :: rest =>
    let (digits, after) := rest.span isDecimal
    if digits.isEmpty then ([], '.' :: rest) else (digits, after)
  | text => ([], text)

/-- The exponent, where one with digits follows. -/
def exponentPart? (text : List Char) : Option (Int × List Char) :=
  match text with
  | [] => none
  | e :: rest =>
    if e = 'e' || e = 'E' then
      let (negative, digits) := match rest with
        | '-' :: more => (true, more)
        | '+' :: more => (false, more)
        | _ => (false, rest)
      let (digits, after) := digits.span isDecimal
      if digits.isEmpty then none
      else
        let n : Int := Integer.ofDigits digits
        some (if negative then -n else n, after)
    else none

/-- The floating-point number with the given digits and exponent. An exponent far out of range is cut
to one that gives the same number. -/
def floatOf (negative : Bool) (digits : List Char) (exponent : Int) : Double :=
  let n := Integer.ofDigits digits
  if n = 0 then Double.zero negative
  else
    let bound : Int := digits.length + 400
    let magnitude := Double.ofDecimal n (max (-bound) (min bound exponent))
    if negative then magnitude.neg else magnitude

/-- A number at the front of the text, its sign already taken. -/
def number? (negative : Bool) (text : List Char) : Except ReadError (Json × List Char) :=
  match integerPart? text with
  | none => .error .malformed
  | some (whole, rest) =>
    let (fraction, rest) := fractionPart rest
    match exponentPart? rest with
    | some (exponent, rest) =>
      .ok (.float (floatOf negative (whole ++ fraction) (exponent - fraction.length)), rest)
    | none =>
      if !fraction.isEmpty then
        .ok (.float (floatOf negative (whole ++ fraction) (-fraction.length)), rest)
      else if Integer.maxDigits < whole.length then .error .integerTooLong
      else
        let n : Int := Integer.ofDigits whole
        .ok (.int (if negative then -n else n), rest)

/-- A number or one of the names at the front of the text. -/
def scalar (text : List Char) : Except ReadError (Json × List Char) :=
  match text with
  | 'n' :: 'u' :: 'l' :: 'l' :: rest => .ok (.null, rest)
  | 't' :: 'r' :: 'u' :: 'e' :: rest => .ok (.bool true, rest)
  | 'f' :: 'a' :: 'l' :: 's' :: 'e' :: rest => .ok (.bool false, rest)
  | 'N' :: 'a' :: 'N' :: rest => .ok (.float .nan, rest)
  | '-' :: rest =>
    match Text.dropFront? "Infinity".toList rest with
    | some after => .ok (.float (.infinity true), after)
    | none => number? true rest
  | _ =>
    match Text.dropFront? "Infinity".toList text with
    | some after => .ok (.float (.infinity false), after)
    | none => number? false text

/-! ## Values -/

mutual

/-- A value at the front of the text, and what follows it. The fuel is more than twice the length of
the text; `depth` counts how many more levels may open. -/
def readValue : Nat → Nat → List Char → Except ReadError (Json × List Char)
  | 0, _, _ => .error .malformed
  | fuel + 1, depth, text =>
    match text with
    | '"' :: rest => (stringBody fuel rest).map fun (body, rest) =>
        (.string (String.ofList body), rest)
    | '[' :: rest =>
      match depth with
      | 0 => .error .nestedTooDeep
      | depth + 1 =>
        match skipSpace rest with
        | ']' :: rest => .ok (.array [], rest)
        | rest => (readItems fuel depth rest).map fun (items, rest) => (.array items, rest)
    | '{' :: rest =>
      match depth with
      | 0 => .error .nestedTooDeep
      | depth + 1 =>
        match skipSpace rest with
        | '}' :: rest => .ok (.object [], rest)
        | rest => (readMembers fuel depth [] rest).map fun (members, rest) =>
            (.object members, rest)
    | _ => scalar text

/-- The items of an array from the first on, and what follows the closing bracket. -/
def readItems : Nat → Nat → List Char → Except ReadError (List Json × List Char)
  | 0, _, _ => .error .malformed
  | fuel + 1, depth, text =>
    match readValue fuel depth text with
    | .error e => .error e
    | .ok (item, rest) =>
      match skipSpace rest with
      | ']' :: rest => .ok ([item], rest)
      | ',' :: rest => (readItems fuel depth (skipSpace rest)).map fun (items, rest) =>
          (item :: items, rest)
      | _ => .error .malformed

/-- The members of an object after those in `seen`, and what follows the closing brace. -/
def readMembers : Nat → Nat → List (String × Json) → List Char →
    Except ReadError (List (String × Json) × List Char)
  | 0, _, _, _ => .error .malformed
  | fuel + 1, depth, seen, text =>
    match text with
    | '"' :: rest =>
      match stringBody fuel rest with
      | .error e => .error e
      | .ok (key, rest) =>
        match skipSpace rest with
        | ':' :: rest =>
          match readValue fuel depth (skipSpace rest) with
          | .error e => .error e
          | .ok (value, rest) =>
            let seen := insert (String.ofList key) value seen
            match skipSpace rest with
            | '}' :: rest => .ok (seen, rest)
            | ',' :: rest => readMembers fuel depth seen (skipSpace rest)
            | _ => .error .malformed
        | _ => .error .malformed
    | _ => .error .malformed

end

/-- The value that a whole text spells. -/
def read (text : List Char) : Except ReadError Json :=
  match readValue (2 * text.length + 1) maxDepth (skipSpace text) with
  | .error e => .error e
  | .ok (value, rest) => if (skipSpace rest).isEmpty then .ok value else .error .malformed

end CodeReview.Json
