/-
Timestamps in settings: a date, or a date and a time of day with blanks or a letter between them, and
then perhaps an offset.
-/
import CodeReview.Fault
import CodeReview.Number.Integer
import CodeReview.Number.Power
import CodeReview.Time.Moment

namespace CodeReview.Yaml

/-- The parts of a timestamp as they are written. -/
structure Timestamp where
  year : List Char
  month : List Char
  day : List Char
  /-- Hours, minutes, seconds and the digits of a fraction. -/
  clock : Option (List Char × List Char × List Char × List Char) := none
  /-- The sign, hours and minutes of an offset; universal time is written without digits. -/
  zone : Option (Bool × List Char × List Char) := none

namespace Timestamp

def isDigit (c : Char) : Bool := '0' ≤ c && c ≤ '9'

def isBlank (c : Char) : Bool := c == ' ' || c == '\t'

/-- Digits, at least `least` and at most `most`, as many as there are. -/
def digits? (least most : Nat) (text : List Char) : Option (List Char × List Char) :=
  let digits := (text.take most).takeWhile isDigit
  if least ≤ digits.length then some (digits, text.drop digits.length) else none

/-- What follows a sign. -/
def after? (c : Char) : List Char → Option (List Char)
  | d :: rest => if c = d then some rest else none
  | [] => none

/-- The offset that a whole text spells. -/
def zone? (text : List Char) : Option (Bool × List Char × List Char) :=
  match text with
  | ['Z'] => some (false, [], [])
  | sign :: rest =>
    if sign = '+' || sign = '-' then do
      let (hours, rest) ← digits? 1 2 rest
      match rest with
      | [] => some (sign = '-', hours, [])
      | ':' :: rest =>
        let (minutes, rest) ← digits? 2 2 rest
        if rest.isEmpty then some (sign = '-', hours, minutes) else none
      | _ => none
    else none
  | [] => none

/-- The gap between date and time. -/
def separator? : List Char → Option (List Char)
  | 'T' :: rest => some rest
  | 't' :: rest => some rest
  | c :: rest => if isBlank c then some (rest.dropWhile isBlank) else none
  | [] => none

/-- The timestamp that a whole text spells. -/
def read? (text : List Char) : Option Timestamp := do
  let (year, rest) ← digits? 4 4 text
  let (month, rest) ← digits? 1 2 (← after? '-' rest)
  let (day, rest) ← digits? 1 2 (← after? '-' rest)
  if rest.isEmpty then return { year, month, day }
  let (hour, rest) ← digits? 1 2 (← separator? rest)
  let (minute, rest) ← digits? 2 2 (← after? ':' rest)
  let (second, rest) ← digits? 2 2 (← after? ':' rest)
  let (fraction, rest) := match rest with
    | '.' :: rest => (rest.takeWhile isDigit, rest.dropWhile isDigit)
    | _ => ([], rest)
  let clock := some (hour, minute, second, fraction)
  if rest.isEmpty then return { year, month, day, clock }
  let zone ← zone? (rest.dropWhile isBlank)
  return { year, month, day, clock, zone := some zone }

/-- A text without a tag is a timestamp: a date without a time has two digits for month and day. -/
def isPlain (text : List Char) : Bool :=
  match read? text with
  | some t => t.clock.isSome || (t.month.length == 2 && t.day.length == 2)
  | none => false

def isValidClock (hour minute second : Nat) : Bool := hour < 24 && minute < 60 && second < 60

/-- The date or moment that a timestamp names. -/
def toMoment (t : Timestamp) : Except Fault (Date ⊕ Moment) := do
  let date : Date :=
    ⟨Integer.ofDigits t.year, Integer.ofDigits t.month, Integer.ofDigits t.day⟩
  match t.clock with
  | none => if date.isValid then return .inl date else throw (.invalid "day is out of range")
  | some (hour, minute, second, fraction) =>
    let offset : Option Int := t.zone.map fun (negative, hours, minutes) =>
      let minutes : Int := Integer.ofDigits hours * 60 + Integer.ofDigits minutes
      let micros := minutes * 60 * Moment.microsPerSecond
      if negative then -micros else micros
    let micros := fraction.take 6
    let moment : Moment := {
      date
      hour := Integer.ofDigits hour
      minute := Integer.ofDigits minute
      second := Integer.ofDigits second
      micro := Integer.ofDigits micros * tenTo (6 - micros.length)
      offset }
    let inRange := offset.all fun o => -Moment.microsPerDay < o && o < Moment.microsPerDay
    if inRange && date.isValid && isValidClock moment.hour moment.minute moment.second then
      return .inr moment
    else throw (.invalid "time is out of range")

end Timestamp

end CodeReview.Yaml
