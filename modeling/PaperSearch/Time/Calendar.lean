/-!
# The Gregorian calendar

Dates of the proleptic Gregorian calendar, with a year 0 and negative years before it, and their
place in the count of days from 1970-01-01.

* `Date.IsReal` says which combinations of year, month and day exist.
* `Date.dayNumber` counts the days from 1970-01-01 to a date.
* `Date.ofDayNumber` is the date of a day.
-/

namespace PaperSearch.Time

structure Date where
  year : Int
  month : Nat
  day : Nat
  deriving DecidableEq, Repr

def isLeapYear (year : Int) : Bool :=
  year % 4 == 0 && (year % 100 != 0 || year % 400 == 0)

/-- How many days a month has; none for a month that does not exist. -/
def daysInMonth (year : Int) (month : Nat) : Nat :=
  match month with
  | 1 | 3 | 5 | 7 | 8 | 10 | 12 => 31
  | 4 | 6 | 9 | 11 => 30
  | 2 => if isLeapYear year then 29 else 28
  | _ => 0

namespace Date

/-- Does the date exist? -/
def isReal (d : Date) : Bool :=
  1 ≤ d.day && d.day ≤ daysInMonth d.year d.month

/-- Days from 1970-01-01 to the date. Years are counted from March, so that the leap day is the
last of its year. -/
def dayNumber (d : Date) : Int :=
  let year := if d.month ≤ 2 then d.year - 1 else d.year
  let month : Int := (d.month + 9) % 12
  365 * year + year / 4 - year / 100 + year / 400 + (153 * month + 2) / 5 + d.day - 719469

/-- The date of a day, counted from 1970-01-01. The 400-year cycle of the calendar has 146097
days. -/
def ofDayNumber (n : Int) : Date :=
  let shifted := n + 719468
  let cycle := shifted / 146097
  let dayOfCycle := shifted % 146097
  let yearOfCycle :=
    (dayOfCycle - dayOfCycle / 1460 + dayOfCycle / 36524 - dayOfCycle / 146096) / 365
  let dayOfYear := dayOfCycle - (365 * yearOfCycle + yearOfCycle / 4 - yearOfCycle / 100)
  let month := (5 * dayOfYear + 2) / 153
  let day := dayOfYear - (153 * month + 2) / 5 + 1
  let year := yearOfCycle + 400 * cycle
  if month < 10 then ⟨year, (month + 3).toNat, day.toNat⟩
  else ⟨year + 1, (month - 9).toNat, day.toNat⟩

end Date
end PaperSearch.Time
