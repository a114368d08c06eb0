import PaperSearch.Config.Setting
import PaperSearch.Time.Calendar

/-!
# Words of a settings file

A word is a value that stands without quotes: a truth value, a number, a date or a time. Digits
may be set apart by single underscores.

* `word?` reads a word.
* A date or time is the text of it, its fraction of a second cut after nine places and written
  without zeros at its end, save one that is all of it.
-/

namespace PaperSearch.Toml

def isWordChar (c : Char) : Bool :=
  c.isAlphanum || c == '_' || c == '+' || c == '-' || c == '.' || c == ':'

/-! ## Numbers -/

/-- Digits without the underscores between them. -/
def digits? (isDigit : Char → Bool) : List Char → Option (List Char)
  | [] => none
  | [c] => if isDigit c then some [c] else none
  | c :: '_' :: rest =>
    if isDigit c then (digits? isDigit rest).map fun ds => c :: ds else none
  | c :: rest => if isDigit c then (digits? isDigit rest).map fun ds => c :: ds else none

def isDigitOf (base : Nat) (c : Char) : Bool :=
  match Text.hexValue? c with
  | some d => d < base
  | none => false

def natural? (base : Nat) (s : List Char) : Option Nat :=
  (digits? (isDigitOf base) s).map fun ds =>
    ds.foldl (fun n c => base * n + (Text.hexValue? c).getD 0) 0

/-- A whole number, if 64 bits hold it. -/
def whole? (n : Int) : Option Setting :=
  if Number.fitsInt64 n then some (.whole n) else none

/-- Digits of a whole number in base ten: no zero before others. -/
def plainDigits? (s : List Char) : Option (List Char) :=
  match digits? Text.isDigit s with
  | some ['0'] => some ['0']
  | some ('0' :: _) => none
  | ds => ds

/-- The sign and the rest. -/
def signed : List Char → Bool × List Char
  | '-' :: rest => (true, rest)
  | '+' :: rest => (false, rest)
  | rest => (false, rest)

def integer? (s : List Char) : Option Setting :=
  match s with
  | '0' :: 'x' :: rest => (natural? 16 rest).bind fun n => whole? n
  | '0' :: 'o' :: rest => (natural? 8 rest).bind fun n => whole? n
  | '0' :: 'b' :: rest => (natural? 2 rest).bind fun n => whole? n
  | s =>
    let (negative, rest) := signed s
    match (plainDigits? rest).bind Text.natural? with
    | some n => whole? (if negative then -(n : Int) else n)
    | none => none

/-- The exponent of a number, its `e` included; none is zero. -/
def exponent? : List Char → Option Int
  | [] => some 0
  | _ :: rest =>
    let (negative, rest) := signed rest
    ((digits? Text.isDigit rest).bind Text.natural?).map fun n =>
      if negative then -(n : Int) else n

def isExponentMark (c : Char) : Bool :=
  c == 'e' || c == 'E'

/-- A number with a fraction, an exponent or both. -/
def fraction? (s : List Char) : Option Setting := do
  let (negative, rest) := signed s
  let mantissa := rest.takeWhile fun c => !isExponentMark c
  let power := rest.dropWhile fun c => !isExponentMark c
  let whole := mantissa.takeWhile fun c => c != '.'
  let point := mantissa.dropWhile fun c => c != '.'
  if power.isEmpty && point.isEmpty then none
  let whole ← plainDigits? whole
  let places ← if point.isEmpty then some [] else digits? Text.isDigit point.tail
  let mantissa ← Text.natural? (whole ++ places)
  let exponent ← exponent? power
  let x := Number.ofDecimal negative mantissa (exponent - places.length)
  if x.isInf then none else some (.real x)

def named? (s : List Char) : Option Setting :=
  if s = "true".toList then some (.flag true)
  else if s = "false".toList then some (.flag false)
  else
    let (negative, rest) := signed s
    let size? : Option Float :=
      if rest = "inf".toList then some (1.0 / 0.0)
      else if rest = "nan".toList then some (0.0 / 0.0)
      else none
    size?.map fun x => .real (if negative then -x else x)

/-! ## Dates and times -/

def twoDigits? (tens ones : Char) : Option Nat :=
  Text.natural? [tens, ones]

/-- A date that exists, as it is written. -/
def date? (s : List Char) : Option (List Char × List Char) :=
  match s with
  | y₁ :: y₂ :: y₃ :: y₄ :: '-' :: m₁ :: m₂ :: '-' :: d₁ :: d₂ :: rest => do
    let year ← Text.natural? [y₁, y₂, y₃, y₄]
    let month ← twoDigits? m₁ m₂
    let day ← twoDigits? d₁ d₂
    if Time.Date.isReal ⟨year, month, day⟩ then
      some ([y₁, y₂, y₃, y₄, '-', m₁, m₂, '-', d₁, d₂], rest)
    else none
  | _ => none

/-- A fraction of a second after its point: nine places at most, no zero at its end save a first
one. -/
def fractionText (digits : List Char) : List Char :=
  match ((digits.take 9).reverse.dropWhile fun c => c == '0').reverse with
  | [] => ['0']
  | ds => ds

/-- The seconds of a time of day with their colon, as they are written; they may be left out. -/
def seconds? : List Char → Option (List Char × List Char)
  | ':' :: s₁ :: s₂ :: rest => do
    let second ← twoDigits? s₁ s₂
    if 60 < second then none
    else match rest with
      | '.' :: rest =>
        let digits := rest.takeWhile Text.isDigit
        if digits.isEmpty then none
        else
          some ([':', s₁, s₂, '.'] ++ fractionText digits, rest.dropWhile Text.isDigit)
      | rest => some ([':', s₁, s₂], rest)
  | rest => some ([], rest)

/-- A time of day, as it is written. -/
def time? (s : List Char) : Option (List Char × List Char) :=
  match s with
  | h₁ :: h₂ :: ':' :: m₁ :: m₂ :: rest => do
    let hour ← twoDigits? h₁ h₂
    let minute ← twoDigits? m₁ m₂
    if hour < 24 ∧ minute < 60 then
      (seconds? rest).map fun (second, rest) => ([h₁, h₂, ':', m₁, m₂] ++ second, rest)
    else none
  | _ => none

/-- A difference from Greenwich and nothing else; none is written as nothing. -/
def offset? (s : List Char) : Option (List Char) :=
  match s with
  | [] => some []
  | ['Z'] | ['z'] => some ['Z']
  | [sign, h₁, h₂, ':', m₁, m₂] => do
    let hour ← twoDigits? h₁ h₂
    let minute ← twoDigits? m₁ m₂
    if (sign = '+' ∨ sign = '-') ∧ hour < 24 ∧ minute < 60 then
      some ((if hour = 0 ∧ minute = 0 then '+' else sign) :: [h₁, h₂, ':', m₁, m₂])
    else none
  | _ => none

/-- A date, a time, or both with a mark between them. -/
def moment? (s : List Char) : Option Setting :=
  match date? s with
  | some (date, []) => some (.text (String.ofList date))
  | some (date, mark :: rest) =>
    if mark = 'T' ∨ mark = 't' ∨ mark = ' ' then do
      let (clock, rest) ← time? rest
      let offset ← offset? rest
      some (.text (String.ofList (date ++ 'T' :: clock ++ offset)))
    else none
  | none =>
    match time? s with
    | some (clock, []) => some (.text (String.ofList clock))
    | _ => none

/-- The value of a word. -/
def word? (s : List Char) : Option Setting :=
  named? s <|> integer? s <|> fraction? s <|> moment? s

end PaperSearch.Toml
