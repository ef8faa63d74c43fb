/-
The standard notation of moments: the date as year, month and day or as year, week and day, with or
without hyphens; then, after any one character, the time of day and the offset. `Moment.read?` is
generous about what stands between the two, `Moment.text` writes one form only.
-/
import CodeReview.Number.Integer
import CodeReview.Number.Power
import CodeReview.Text.Find
import CodeReview.Time.Moment

namespace CodeReview

/-! ## Writing -/

/-- A number with at least `width` digits. -/
def padded (width n : Nat) : List Char := Text.padLeft width '0' (Nat.toDigits 10 n)

def Date.text (d : Date) : List Char :=
  padded 4 d.year ++ '-' :: padded 2 d.month ++ '-' :: padded 2 d.day

/-- Hours and minutes of an offset, with seconds and microseconds only where there are any. -/
def offsetText (offset : Int) : List Char :=
  let micros := offset.natAbs
  let seconds := micros / 1000000
  (if offset < 0 then '-' else '+') :: padded 2 (seconds / 3600) ++
    ':' :: padded 2 (seconds / 60 % 60) ++
    (if seconds % 60 = 0 && micros % 1000000 = 0 then [] else ':' :: padded 2 (seconds % 60)) ++
    (if micros % 1000000 = 0 then [] else '.' :: padded 6 (micros % 1000000))

namespace Moment

/-- The moment with the given character between date and time. -/
def textWith (separator : Char) (m : Moment) : List Char :=
  m.date.text ++ separator :: padded 2 m.hour ++ ':' :: padded 2 m.minute ++
    ':' :: padded 2 m.second ++
    (if m.micro = 0 then [] else '.' :: padded 6 m.micro) ++
    (match m.offset with
      | some offset => offsetText offset
      | none => [])

def text (m : Moment) : List Char := m.textWith 'T'

/-! ## Reading -/

def isDecimal (c : Char) : Bool := '0' ≤ c && c ≤ '9'

/-- A number of exactly `width` digits at the front. -/
def digits? (width : Nat) (text : List Char) : Option (Nat × List Char) :=
  let digits := text.take width
  if digits.length = width && digits.all isDecimal then
    some (Integer.ofDigits digits, text.drop width)
  else none

/-- How many characters the date takes. The forms are told apart by a hyphen after the year, a week
sign, and the number of digits that follow. -/
def dateLength? (text : List Char) : Option Nat :=
  let length := text.length
  let at? (i : Nat) : Option Char := text[i]?
  if length = 7 then some 7
  else if at? 4 = some '-' then
    if at? 5 = some 'W' then
      if length < 8 then none
      else if 8 < length && at? 8 = some '-' then
        if length = 9 then none
        else if (at? 10).any isDecimal then some 8
        else some 10
      else some 8
    else some 10
  else if at? 4 = some 'W' then
    let run := 7 + ((text.drop 7).takeWhile isDecimal).length
    if run < 9 then some run else if run % 2 = 0 then some 7 else some 8
  else some 8

/-- The date in the first `length` characters. -/
def readDate? (length : Nat) (text : List Char) : Option Date := do
  let (year, rest) ← digits? 4 text
  let hyphens := rest.head? = some '-'
  let rest := if hyphens then rest.drop 1 else rest
  if rest.head? = some 'W' then
    let (week, rest) ← digits? 2 (rest.drop 1)
    if text.length - rest.length < length then
      if hyphens && rest.head? ≠ some '-' then none
      else
        let (day, _) ← digits? 1 (if hyphens then rest.drop 1 else rest)
        Date.ofWeek? year week day
    else Date.ofWeek? year week 1
  else
    let (month, rest) ← digits? 2 rest
    if hyphens && rest.head? ≠ some '-' then none
    else
      let (day, _) ← digits? 2 (if hyphens then rest.drop 1 else rest)
      some ⟨year, month, day⟩

/-- A time of day as it is read: what was given of it, and whether the text ended with it. -/
structure ClockTime where
  hour : Nat := 0
  minute : Nat := 0
  second : Nat := 0
  micro : Nat := 0
  /-- Nothing, or nothing but the end, follows. -/
  complete : Bool := true

/-- The fraction of a second: up to six digits count, further ones are passed over. `after` is what
follows the time. -/
def readFraction? (t : ClockTime) (text after : List Char) : Option ClockTime := do
  let count := min 6 text.length
  let (value, rest) ← digits? count text
  let value := value * tenTo (6 - count)
  let rest := (rest ++ after).dropWhile isDecimal
  return { t with micro := if count = 0 then 0 else value, complete := rest.isEmpty }

/-- Hours, minutes, seconds and a fraction, with colons or without. `text` runs up to the offset and
`after` is the rest; `index` counts the parts read before. -/
def readClock? (after : List Char) : Nat → Nat → Bool → ClockTime → List Char → Option ClockTime
  | 0, _, _, t, text => readFraction? t text after
  | parts + 1, index, colons, t, text => do
    let (value, rest) ← digits? 2 text
    let t := match index with
      | 0 => { t with hour := value }
      | 1 => { t with minute := value }
      | _ => { t with second := value }
    let following := (rest ++ after).head?
    let colons := if index = 0 then following = some ':' else colons
    match rest with
    | [] | [_] => return { t with complete := following.isNone }
    | c :: more =>
      if colons && c = ':' then readClock? after parts (index + 1) colons t more
      else if c = '.' || c = ',' then readFraction? t more after
      else if !colons then readClock? after parts (index + 1) colons t rest
      else none

def readTimeParts? (text after : List Char) : Option ClockTime :=
  readClock? after 3 0 true {} text

/-- The time of day and the offset, in microseconds. -/
def readTime? (text : List Char) : Option (ClockTime × Option Int) := do
  let isSign (c : Char) : Bool := c = '+' || c = '-' || c = 'Z'
  let clock := text.takeWhile (!isSign ·)
  let zone := text.dropWhile (!isSign ·)
  let t ← readTimeParts? clock zone
  match zone with
  | [] => if t.complete then some (t, none) else none
  | ['Z'] => some (t, some 0)
  | 'Z' :: _ => none
  | sign :: rest =>
    let z ← readTimeParts? rest []
    if !z.complete then none
    else
      let seconds : Int := (z.hour * 60 + z.minute) * 60 + z.second
      let micros := seconds * microsPerSecond + z.micro
      some (t, some (if seconds = 0 then 0 else if sign = '-' then -micros else micros))

/-- The moment that a text spells; a text shorter than seven characters spells none. -/
def read? (text : List Char) : Option Moment := do
  if text.length < 7 then none
  else
    let length ← dateLength? text
    let date ← readDate? length text
    let (t, offset) ← match text.drop length with
      | [] => some ({}, none)
      | _ :: rest => readTime? rest
    let inRange := date.isValid && t.hour < 24 && t.minute < 60 && t.second < 60 &&
      (offset.getD 0).natAbs < microsPerDay.natAbs
    if inRange then some ⟨date, t.hour, t.minute, t.second, t.micro, offset⟩ else none

end Moment

end CodeReview
