/-
Moments: a date, a time of day to the microsecond and, where one is known, the offset from universal
time. Two moments with an offset are compared by the instant they name.
-/
import CodeReview.Fault
import CodeReview.Number.Amount
import CodeReview.Time.Calendar

namespace CodeReview

/-- A moment; the offset is in microseconds. -/
structure Moment where
  date : Date
  hour : Nat
  minute : Nat
  second : Nat
  micro : Nat
  offset : Option Int
  deriving DecidableEq, Repr

namespace Moment

def microsPerSecond : Int := 1000000

def microsPerDay : Int := 86400 * microsPerSecond

/-- The microseconds of the day gone by. -/
def timeOfDay (m : Moment) : Int :=
  ((m.hour * 60 + m.minute) * 60 + m.second : Nat) * microsPerSecond + (m.micro : Int)

/-- The microseconds from the day before day 1 to the moment on its own clock. -/
def clockMicros (m : Moment) : Int := (m.date.ordinal : Int) * microsPerDay + m.timeOfDay

/-- The microseconds from the day before day 1 to the moment in universal time. -/
def instant (m : Moment) : Int := m.clockMicros - m.offset.getD 0

/-- The moment at a count of microseconds, if it lies in the calendar. -/
def ofMicros? (micros : Int) (offset : Option Int) : Option Moment :=
  let days := micros / microsPerDay
  let rest := (micros % microsPerDay).toNat
  if days < 1 || (Date.maxOrdinal : Int) < days then none
  else
    let seconds := rest / 1000000
    some ⟨Date.ofOrdinal days.toNat, seconds / 3600, seconds / 60 % 60, seconds % 60,
      rest % 1000000, offset⟩

/-- The moment a number of microseconds earlier on the same clock. -/
def earlier (m : Moment) (micros : Int) : Except Fault Moment :=
  match ofMicros? (m.clockMicros - micros) m.offset with
  | some m' => .ok m'
  | none => .error .outOfRange

/-- The date of a moment in universal time. -/
def utcDate (m : Moment) : Except Fault Date :=
  match ofMicros? m.instant (some 0) with
  | some m' => .ok m'.date
  | none => .error .outOfRange

/-- Taken to be universal time where no offset is known. -/
def orUtc (m : Moment) : Moment := { m with offset := some (m.offset.getD 0) }

end Moment

/-! ## Spans -/

/-- Spans are shorter than this many days. -/
def maxSpanDays : Int := 999999999

/-- A span in microseconds, unless it is too long. -/
def checkSpan (micros : Int) : Except Fault Int :=
  let days := micros / Moment.microsPerDay
  if days < -maxSpanDays || maxSpanDays < days then .error .outOfRange else .ok micros

/-- The nearest integer, a half going to the even one. -/
def nearestEven (q : Rat) : Int :=
  let low := q.floor
  let gap := q - low
  if gap < mkRat 1 2 then low
  else if mkRat 1 2 < gap then low + 1
  else if low % 2 = 0 then low else low + 1

/-- The microseconds of a number of days. The fraction of a day is counted out in floating point and
rounded once. -/
def microsOfDays (days : Amount) : Except Fault Int :=
  match days with
  | .int n => checkSpan (n * Moment.microsPerDay)
  | .float x => do
    let whole ← x.truncate
    let fraction : Rat := (x.toRat?.getD 0) - whole
    let rest := (Double.round fraction).mul (.ofInt Moment.microsPerDay)
    let (restWhole, restFraction) := Double.split (rest.toRat?.getD 0)
    let micros := whole * Moment.microsPerDay + restWhole
    checkSpan (nearestEven (micros + restFraction))

end CodeReview
