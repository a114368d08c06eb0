import PaperSearch.Text.Digits

/-!
# Decimal numbers

* `ofDecimal` is the floating-point number nearest to a decimal, ties to even.
* `scaled?` is a number near a decimal, found in a few steps that each round.
* `ofText?` reads a number with a fraction and an exponent, or the name of a value that is no
  number or not finite.
-/

namespace PaperSearch.Number

/-- The number of decimal digits of a number. -/
def digitCount (n : Nat) : Nat :=
  if n < 10 then 1 else digitCount (n / 10) + 1
termination_by n

/-- The size of the number nearest to `mantissa * 10 ^ exponent`. Outside 400 places the nearest
number is infinite or zero. -/
def sizeOfDecimal (mantissa : Nat) (exponent : Int) : Float :=
  let magnitude := exponent + digitCount mantissa
  if mantissa = 0 ∨ magnitude < -400 then 0.0
  else if 400 < magnitude then 1.0 / 0.0
  else Float.ofScientific mantissa (decide (exponent < 0)) exponent.natAbs

/-- The floating-point number nearest to a decimal. -/
def ofDecimal (negative : Bool) (mantissa : Nat) (exponent : Int) : Float :=
  let size := sizeOfDecimal mantissa exponent
  if negative then -size else size

/-- The number nearest to a power of ten. -/
def powerOfTen (places : Nat) : Float :=
  sizeOfDecimal 1 places

/-- The largest power of ten that is not infinite as a floating-point number. -/
def largestPower : Nat := 308

/-- A size divided by a power of ten, by the largest one first where it takes more than one. -/
def shrink (size : Float) (places : Nat) : Float :=
  if places ≤ largestPower then size / powerOfTen places
  else if size == 0.0 then size
  else shrink (size / powerOfTen largestPower) (places - largestPower)
termination_by places
decreasing_by simp only [largestPower] at *; omega

/-- A mantissa, to the nearest number, times or divided by a power of ten; nothing when that is
infinite. -/
def scaled? (mantissa : Nat) (exponent : Int) : Option Float :=
  let size := sizeOfDecimal mantissa 0
  if exponent < 0 then some (shrink size exponent.natAbs)
  else if largestPower < exponent.natAbs then if size == 0.0 then some size else none
  else
    let size := size * powerOfTen exponent.natAbs
    if size.isInf then none else some size

/-- Do 64 bits hold a whole number? -/
def fitsInt64 (n : Int) : Bool :=
  -9223372036854775808 ≤ n && n ≤ 9223372036854775807

/-! ## Reading -/

/-- A whole number with a sign if any. -/
def integer? : List Char → Option Int
  | '-' :: digits => (Text.natural? digits).map fun n => -(n : Int)
  | '+' :: digits => (Text.natural? digits).map fun n => (n : Int)
  | digits => (Text.natural? digits).map fun n => (n : Int)

/-- An exponent and nothing else; none is zero. -/
def exponent? : List Char → Option Int
  | [] => some 0
  | c :: rest => if c = 'e' ∨ c = 'E' then integer? rest else none

/-- A number without a sign: digits with a point before, among or after them, and an exponent if
any. -/
def size? (s : List Char) : Option Float :=
  let whole := s.takeWhile Text.isDigit
  let rest := s.dropWhile Text.isDigit
  let (places, rest) :=
    match rest with
    | '.' :: afterPoint => (afterPoint.takeWhile Text.isDigit, afterPoint.dropWhile Text.isDigit)
    | rest => ([], rest)
  match Text.natural? (whole ++ places), exponent? rest with
  | some mantissa, some exponent => some (sizeOfDecimal mantissa (exponent - places.length))
  | _, _ => none

/-- A name, in either case, or a number. -/
def magnitude? (s : List Char) : Option Float :=
  let name := s.map Char.toLower
  if name = "nan".toList then some (0.0 / 0.0)
  else if name = "inf".toList ∨ name = "infinity".toList then some (1.0 / 0.0)
  else size? s

/-- The floating-point number that a text writes. -/
def ofText? : List Char → Option Float
  | '-' :: rest => (magnitude? rest).map fun x => -x
  | '+' :: rest => magnitude? rest
  | s => magnitude? s

end PaperSearch.Number
