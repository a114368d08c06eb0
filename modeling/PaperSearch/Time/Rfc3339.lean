import PaperSearch.Text.Blank
import PaperSearch.Text.Cut
import PaperSearch.Text.Digits
import PaperSearch.Text.Percent
import PaperSearch.Time.Instant

/-!
# Internet timestamps

Timestamps after RFC 3339: a date, `T`, a time of day, an offset from UTC.

* `Rfc3339.parse` reads one strictly and says what is wrong with a text that is none. `t` and a
  space may stand for the `T`, `z` for `Z`, and a minus sign for the hyphen of an offset; digits
  of a fraction after the ninth are dropped; a second 60 is a leap second.
* `Rfc3339.parseLenient?` also takes signed years of any length, blanks between the parts and at
  the end, and `UTC` as an offset.
* `Rfc3339.render` writes an instant in UTC.
-/

namespace PaperSearch.Time.Rfc3339

/-- Why a text is no timestamp. -/
inductive Fault where
  | premature
  | invalid
  | outOfRange
  | trailing
  deriving DecidableEq, Repr

def Fault.message : Fault → String
  | premature => "premature end of input"
  | invalid => "input contains invalid characters"
  | outOfRange => "input is out of range"
  | trailing => "trailing input"

/-- A reader of the front of a text. -/
abbrev Reader := StateT (List Char) (Except Fault)

/-! ## Parts -/

def digit : Reader Nat := fun s =>
  match s with
  | [] => .error .premature
  | c :: rest => if Text.isDigit c then .ok (Text.digitValue c, rest) else .error .invalid

def twoDigits : Reader Nat := do
  let tens ← digit
  let ones ← digit
  return 10 * tens + ones

/-- One character for which the test holds. -/
def symbol (accepts : Char → Bool) : Reader Unit := fun s =>
  match s with
  | [] => .error .premature
  | c :: rest => if accepts c then .ok ((), rest) else .error .invalid

/-- Fails unless the condition holds. -/
def require (condition : Bool) (fault : Fault) : Reader Unit :=
  if condition then pure () else throw fault

/-- Digits of a fraction, as nanoseconds: nine places count. -/
def fractionNanos (digits : List Char) : Nat :=
  let kept := digits.take 9
  (Text.naturalFrom? 0 kept).getD 0 * Nat.pow 10 (9 - kept.length)

/-- A fraction of a second, if a point begins one. -/
def fraction : Reader Nat := fun s =>
  match s with
  | '.' :: rest =>
    match rest with
    | [] => .error .premature
    | c :: _ =>
      if Text.isDigit c then
        .ok (fractionNanos (rest.takeWhile Text.isDigit), rest.dropWhile Text.isDigit)
      else .error .invalid
  | _ => .ok (0, s)

/-- Two digits of an offset, once as many bytes are there. -/
def offsetPair : Reader (Char × Char) := fun s =>
  match s with
  | a :: b :: rest =>
    if Text.isDigit a && Text.isDigit b then .ok ((a, b), rest) else .error .invalid
  | [a] => if a.utf8Size < 2 then .error .premature else .error .invalid
  | [] => .error .premature

/-- Is it a sign of an offset, and does it lie west? -/
def west? (c : Char) : Option Bool :=
  if c = '+' then some false
  else if c = '-' ∨ c = '\u2212' then some true
  else none

/-- An offset from UTC in seconds. What stands between hours and minutes is read by `separator`. -/
def offset (separator : Reader Unit) : Reader Int := fun s =>
  match s with
  | [] => .error .premature
  | c :: rest =>
    if c = 'Z' ∨ c = 'z' then .ok (0, rest)
    else match west? c with
      | none => .error .invalid
      | some west =>
        (do let (h₁, h₂) ← offsetPair
            separator
            let (m₁, m₂) ← offsetPair
            let hours := 10 * Text.digitValue h₁ + Text.digitValue h₂
            let minutes := 10 * Text.digitValue m₁ + Text.digitValue m₂
            require (minutes < 60) .outOfRange
            let seconds : Int := 3600 * hours + 60 * minutes
            return if west then -seconds else seconds) rest

/-- The instant of a local date and time. A second 60 is the 59th with a leap second. -/
def assemble? (date : Date) (hour minute second nanos : Nat) (offset : Int) : Option Instant :=
  if date.isReal && hour < 24 && minute < 60 && second ≤ 60 && offset.natAbs < 86400 then
    let leap := second == 60
    let whole := if leap then 59 else second
    let extra := if leap then 1000000000 else 0
    let ofDay : Int := (3600 * hour + 60 * minute + whole : Nat)
    let local_ := 86400 * date.dayNumber + ofDay
    if firstSecond ≤ local_ ∧ local_ ≤ lastSecond then
      Instant.ofParts? (local_ - offset) (nanos + extra)
    else none
  else none

/-! ## Strict reading -/

/-- Date, time and offset of a timestamp; the rest must be empty. -/
def timestamp : Reader Instant := do
  let y₁ ← twoDigits
  let y₂ ← twoDigits
  symbol (· == '-')
  let month ← twoDigits
  symbol (· == '-')
  let day ← twoDigits
  let date : Date := ⟨(100 * y₁ + y₂ : Nat), month, day⟩
  require date.isReal .outOfRange
  symbol fun c => c == 'T' || c == 't' || c == ' '
  let hour ← twoDigits
  symbol (· == ':')
  let minute ← twoDigits
  symbol (· == ':')
  let second ← twoDigits
  let nanos ← fraction
  require (hour < 24 && minute < 60 && second ≤ 60) .outOfRange
  let east ← offset (symbol (· == ':'))
  let rest ← get
  require rest.isEmpty .trailing
  match assemble? date hour minute second nanos east with
  | some t => return t
  | none => throw .outOfRange

/-- A text of fewer than nineteen bytes ends before the seconds do. -/
def parse (s : List Char) : Except Fault Instant :=
  if Text.byteLength s < 19 then .error .premature
  else (timestamp s).map Prod.fst

/-! ## Lenient reading -/

def blanks : Reader Unit := fun s =>
  .ok ((), s.dropWhile Text.isBlank)

/-- A number of one to `most` digits after any blanks. -/
def number (most : Nat) : Reader Nat := fun s =>
  let s := s.dropWhile Text.isBlank
  let digits := (s.takeWhile Text.isDigit).take most
  match Text.natural? digits with
  | some n => .ok (n, s.drop digits.length)
  | none => .error .invalid

/-- A year: four digits at most, or any number of them after a sign. -/
def year : Reader Int := fun s =>
  match s.dropWhile Text.isBlank with
  | '-' :: rest =>
    match rest with
    | c :: _ =>
      if Text.isDigit c then ((number rest.length) rest).map fun (n, r) => (-(n : Int), r)
      else .error .invalid
    | [] => .error .premature
  | '+' :: rest =>
    match rest with
    | c :: _ =>
      if Text.isDigit c then ((number rest.length) rest).map fun (n, r) => ((n : Int), r)
      else .error .invalid
    | [] => .error .premature
  | rest => ((number 4) rest).map fun (n, r) => ((n : Int), r)

/-- The letters `UTC` in either case, or an offset with colons and blanks before its minutes. -/
def lenientOffset : Reader Int := fun s =>
  match s with
  | u :: t :: c :: rest =>
    if u.toUpper == 'U' && t.toUpper == 'T' && c.toUpper == 'C' then .ok (0, rest)
    else offset separator s
  | _ => offset separator s
where
  separator : Reader Unit := fun s =>
    .ok ((), s.dropWhile fun c => c == ':' || Text.isBlank c)

def lenientTimestamp : Reader Instant := do
  let y ← year
  blanks
  symbol (· == '-')
  let month ← number 2
  blanks
  symbol (· == '-')
  let day ← number 2
  symbol fun c => c == 'T' || c == 't' || c == ' '
  let hour ← number 2
  blanks
  symbol (· == ':')
  let minute ← number 2
  blanks
  symbol (· == ':')
  let second ← number 2
  let nanos ← fraction
  blanks
  let east ← lenientOffset
  blanks
  let rest ← get
  require rest.isEmpty .trailing
  match assemble? ⟨y, month, day⟩ hour minute second nanos east with
  | some t => return t
  | none => throw .outOfRange

def parseLenient? (s : List Char) : Option Instant :=
  match lenientTimestamp s with
  | .ok (t, _) => some t
  | .error _ => none

/-! ## Writing -/

/-- Nanoseconds as a fraction of 0, 3, 6 or 9 digits, the fewest that lose nothing. -/
def fractionDigits (nanos : Nat) : List Char :=
  if nanos = 0 then []
  else if nanos % 1000000 = 0 then '.' :: Text.padded 3 (nanos / 1000000)
  else if nanos % 1000 = 0 then '.' :: Text.padded 6 (nanos / 1000)
  else '.' :: Text.padded 9 nanos

/-- An instant in UTC; a leap second is written as second 60. -/
def render (t : Instant) : List Char :=
  let leap := decide (1000000000 ≤ t.nanos)
  let second := if leap then t.second + 1 else t.second
  let nanos := if leap then t.nanos - 1000000000 else t.nanos
  t.dateDigits ++ 'T' :: Text.padded 2 t.hour ++ ':' :: Text.padded 2 t.minute ++
    ':' :: Text.padded 2 second ++ fractionDigits nanos ++ ['Z']

end PaperSearch.Time.Rfc3339
