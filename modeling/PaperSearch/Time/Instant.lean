import PaperSearch.Text.Digits
import PaperSearch.Time.Calendar

/-!
# Instants

An instant is a second of Coordinated Universal Time, counted from 1970-01-01T00:00:00Z, and
nanoseconds in it. A leap second is the last second of a minute with a thousand million
nanoseconds or more. Years run from -262143 to 262142.

* `Instant.ofParts?` accepts exactly the pairs that are instants.
* `Instant.toMinute` drops seconds and below.
-/

namespace PaperSearch.Time

/-- The first second of the year -262143. -/
def firstSecond : Int := -8334601228800

/-- The last second of the year 262142. -/
def lastSecond : Int := 8210266876799

structure Instant where
  seconds : Int
  nanos : Nat
  first_le : firstSecond ≤ seconds
  le_last : seconds ≤ lastSecond
  nanos_lt : nanos < 2000000000
  leap_at_minute_end : 1000000000 ≤ nanos → seconds % 60 = 59
  deriving DecidableEq, Repr

namespace Instant

/-- The instant with these seconds and nanoseconds, if there is one. -/
def ofParts? (seconds : Int) (nanos : Nat) : Option Instant :=
  if first : firstSecond ≤ seconds then
    if last : seconds ≤ lastSecond then
      if bound : nanos < 2000000000 then
        if leap : 1000000000 ≤ nanos → seconds % 60 = 59 then
          some ⟨seconds, nanos, first, last, bound, leap⟩
        else none
      else none
    else none
  else none

/-- The instant of a date and a second of its day. -/
def ofDate? (date : Date) (secondOfDay nanos : Nat) : Option Instant :=
  ofParts? (86400 * date.dayNumber + secondOfDay) nanos

def date (t : Instant) : Date :=
  Date.ofDayNumber (t.seconds / 86400)

def secondOfDay (t : Instant) : Nat :=
  (t.seconds % 86400).toNat

def hour (t : Instant) : Nat :=
  t.secondOfDay / 3600

def minute (t : Instant) : Nat :=
  t.secondOfDay / 60 % 60

def second (t : Instant) : Nat :=
  t.secondOfDay % 60

/-- No nanoseconds are few enough. -/
theorem zero_nanos_lt : (0 : Nat) < 2000000000 := by decide

/-- Without nanoseconds there is no leap second. -/
theorem no_leap (seconds : Int) (h : 1000000000 ≤ 0) : seconds % 60 = 59 := by omega

/-- The start of the minute that holds the instant. -/
def toMinute (t : Instant) : Instant where
  seconds := t.seconds - t.seconds % 60
  nanos := 0
  first_le := by have := t.first_le; simp only [firstSecond] at *; omega
  le_last := by have := t.le_last; simp only [lastSecond] at *; omega
  nanos_lt := zero_nanos_lt
  leap_at_minute_end := no_leap _

/-- A year in four digits, with a sign outside 0 to 9999. -/
def yearDigits (year : Int) : List Char :=
  if 0 ≤ year ∧ year ≤ 9999 then Text.padded 4 year.toNat
  else (if year < 0 then '-' else '+') :: Text.atLeast 4 year.natAbs

/-- The date as year, month and day with hyphens between them. -/
def dateDigits (t : Instant) : List Char :=
  yearDigits t.date.year ++ '-' :: Text.padded 2 t.date.month ++ '-' :: Text.padded 2 t.date.day

end Instant
end PaperSearch.Time
