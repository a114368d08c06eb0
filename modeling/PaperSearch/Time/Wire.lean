import PaperSearch.Text.Digits
import PaperSearch.Time.Instant

/-!
# Wire timestamps

Date ranges of a query hold instants as twelve digits, `YYYYMMDDhhmm`. Only whole minutes of the
years 0 to 9999 can be written so.

* `Instant.toWire` moves an instant to one that can be written.
* `Instant.wireDigits` writes the digits.
* `Instant.ofWireDigits?` reads them.
-/

namespace PaperSearch.Time.Instant

/-- The first minute of the year 0. -/
def firstWire : Instant where
  seconds := -62167219200
  nanos := 0
  first_le := by decide
  le_last := by decide
  nanos_lt := zero_nanos_lt
  leap_at_minute_end := no_leap _

/-- The last minute of the year 9999. -/
def lastWire : Instant where
  seconds := 253402300740
  nanos := 0
  first_le := by decide
  le_last := by decide
  nanos_lt := zero_nanos_lt
  leap_at_minute_end := no_leap _

/-- The start of the instant's minute; outside the years 0 to 9999 the nearest minute of them. -/
def toWire (t : Instant) : Instant :=
  let year := t.date.year
  if year < 0 then firstWire
  else if 9999 < year then lastWire
  else t.toMinute

/-- Year, month, day, hour and minute without separators. -/
def wireDigits (t : Instant) : List Char :=
  yearDigits t.date.year ++ Text.padded 2 t.date.month ++ Text.padded 2 t.date.day ++
    Text.padded 2 t.hour ++ Text.padded 2 t.minute

/-- The number in two digits. -/
def pair (tens ones : Char) : Nat :=
  10 * Text.digitValue tens + Text.digitValue ones

/-- Reads exactly twelve digits that name a date and a time of day. -/
def ofWireDigits? (s : List Char) : Option Instant :=
  match s with
  | [y₁, y₂, y₃, y₄, m₁, m₂, d₁, d₂, h₁, h₂, n₁, n₂] =>
    if s.all Text.isDigit then
      let date : Date := ⟨100 * pair y₁ y₂ + pair y₃ y₄, pair m₁ m₂, pair d₁ d₂⟩
      let hour := pair h₁ h₂
      let minute := pair n₁ n₂
      if date.isReal ∧ hour < 24 ∧ minute < 60 then
        ofDate? date (3600 * hour + 60 * minute) 0
      else none
    else none
  | _ => none

end PaperSearch.Time.Instant
