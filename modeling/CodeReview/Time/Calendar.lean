/-
The calendar: dates of the years 1 to 9999 and their place in the count of days, where the first of
January of the year 1 is day 1.
-/
import CodeReview.Number.Power

namespace CodeReview

/-- A date. -/
structure Date where
  year : Nat
  month : Nat
  day : Nat
  deriving DecidableEq, Repr

namespace Date

def isLeap (year : Nat) : Bool := year % 4 == 0 && (year % 100 != 0 || year % 400 == 0)

def daysInMonth (year month : Nat) : Nat :=
  match month with
  | 2 => if isLeap year then 29 else 28
  | 4 | 6 | 9 | 11 => 30
  | _ => 31

/-- The year, the month and the day are in range. -/
def isValid (d : Date) : Bool :=
  1 ≤ d.year && d.year ≤ 9999 && 1 ≤ d.month && d.month ≤ 12 && 1 ≤ d.day &&
    d.day ≤ daysInMonth d.year d.month

/-- The days of all years before a year. -/
def daysBeforeYear (year : Nat) : Nat :=
  let y := year - 1
  y * 365 + y / 4 - y / 100 + y / 400

/-- The days of a year before a month. -/
def daysBeforeMonth (year month : Nat) : Nat :=
  sumNat ((List.range (month - 1)).map fun m => daysInMonth year (m + 1))

/-- The place of a date in the count of days. -/
def ordinal (d : Date) : Nat := daysBeforeYear d.year + daysBeforeMonth d.year d.month + d.day

/-- The place of the last date, the end of the year 9999. -/
def maxOrdinal : Nat := 3652059

/-- The month that holds a day of a year, and the day of the month; `month` is the first to try. -/
def monthOfDay (year : Nat) : Nat → Nat → Nat → Nat × Nat
  | 0, month, day => (month, day)
  | fuel + 1, month, day =>
    let length := daysInMonth year month
    if day ≤ length then (month, day) else monthOfDay year fuel (month + 1) (day - length)

/-- The date at a place in the count of days, which is at least 1. -/
def ofOrdinal (n : Nat) : Date :=
  let days := n - 1
  let cycles := days / 146097
  let days := days % 146097
  let centuries := days / 36524
  let days := days % 36524
  let fours := days / 1461
  let days := days % 1461
  let ones := days / 365
  let days := days % 365
  let year := cycles * 400 + centuries * 100 + fours * 4 + ones + 1
  if ones = 4 || centuries = 4 then ⟨year - 1, 12, 31⟩
  else
    let (month, day) := monthOfDay year 11 1 (days + 1)
    ⟨year, month, day⟩

/-- The day of the week, Monday being 0. -/
def weekday (d : Date) : Nat := (d.ordinal + 6) % 7

/-- The Monday of the week that holds the year's first Thursday, as a place in the count of days. -/
def firstMonday (year : Nat) : Nat :=
  let first := daysBeforeYear year + 1
  let weekday := (first + 6) % 7
  let monday := first - weekday
  if 3 < weekday then monday + 7 else monday

/-- The year has a week 53. -/
def isLongYear (year : Nat) : Bool :=
  let weekday := (daysBeforeYear year + 7) % 7
  weekday == 3 || (weekday == 2 && isLeap year)

/-- The date of a day of a numbered week, the days being counted from 1. -/
def ofWeek? (year week day : Nat) : Option Date :=
  if year = 0 || week = 0 || 53 < week || (week = 53 && !isLongYear year) || day = 0 || 7 < day
  then none
  else some (ofOrdinal (firstMonday year + (week - 1) * 7 + (day - 1)))

end Date

end CodeReview
