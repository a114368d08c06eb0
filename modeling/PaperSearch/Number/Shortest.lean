import PaperSearch.Number.Binary
import PaperSearch.Number.Decimal

/-!
# The shortest text of a floating-point number

A finite positive floating-point number is `m * 2 ^ q`. The real numbers between the midpoints to
its neighbours are read as it; the midpoints themselves are when `m` is even. Of the decimals
among them one with the fewest digits is written, and of those the nearest.

* `shortest` is that decimal.
* `plain` writes a number with it, without an exponent.
-/

namespace PaperSearch.Number

/-- A positive number and the numbers that are read as it, all as multiples of one unit
`num / den`. -/
structure Interval where
  low : Nat
  value : Nat
  high : Nat
  num : Nat
  den : Nat
  /-- Are the ends read as it as well? -/
  closed : Bool
  deriving Repr

namespace Interval

/-- The interval of a number, the unit a quarter of its last place. Below a power of two the next
number is half as far away, save below the least one. -/
def ofBinary (x : Binary) : Interval where
  low := 4 * x.mantissa - if x.mantissa = mantissaBase ∧ 1 < x.place then 1 else 2
  value := 4 * x.mantissa
  high := 4 * x.mantissa + 2
  num := Nat.pow 2 (x.place - 1077)
  den := Nat.pow 2 (1077 - x.place)
  closed := x.mantissa % 2 == 0

/-- The power of ten of the first digit. -/
def magnitude (i : Interval) : Int :=
  digitCount (i.value * i.num * Nat.pow 10 400 / i.den) - 401

/-- How often `10 ^ place` goes into the value. -/
def floorAt (i : Interval) (place : Int) : Nat :=
  i.value * i.num * Nat.pow 10 (-place).toNat / (i.den * Nat.pow 10 place.toNat)

/-- Is `n * 10 ^ place` read as the number? -/
def holds (i : Interval) (n : Nat) (place : Int) : Bool :=
  let x := n * Nat.pow 10 place.toNat * i.den
  let unit := Nat.pow 10 (-place).toNat * i.num
  if i.closed then i.low * unit ≤ x && x ≤ i.high * unit
  else i.low * unit < x && x < i.high * unit

/-- Is the value nearer to `(n + 1) * 10 ^ place` than to `n * 10 ^ place`, or in the middle? -/
def roundsUp (i : Interval) (n : Nat) (place : Int) : Bool :=
  (2 * n + 1) * Nat.pow 10 place.toNat * i.den ≤ 2 * i.value * Nat.pow 10 (-place).toNat * i.num

/-- The decimal at a place, if one of the two around the value is read as the number. -/
def nearest? (i : Interval) (place : Int) : Option Nat :=
  let n := i.floorAt place
  match i.holds n place, i.holds (n + 1) place with
  | true, true => some (if i.roundsUp n place then n + 1 else n)
  | true, false => some n
  | false, true => some (n + 1)
  | false, false => none

/-- The decimal with the fewest digits, from a place downward. -/
def search (i : Interval) : Nat → Int → Nat × Int
  | 0, place => (i.floorAt place, place)
  | more + 1, place =>
    match i.nearest? place with
    | some n => (n, place)
    | none => search i more (place - 1)

end Interval

/-- The mantissa and the power of ten of the shortest decimal of a finite positive number. No
number needs more than 17 digits. The search begins a place above the first digit, since the power
of ten there may be read as a number just below it. -/
def shortest (x : Float) : Nat × Int :=
  let i := Interval.ofBinary (.ofFloat x)
  i.search 18 (i.magnitude + 1)

/-- A decimal without an exponent. -/
def positional (mantissa : Nat) (exponent : Int) : List Char :=
  let digits := Text.decimal mantissa
  if 0 ≤ exponent then digits ++ List.replicate exponent.toNat '0'
  else
    let places := exponent.natAbs
    let digits := List.replicate (places + 1 - digits.length) '0' ++ digits
    digits.take (digits.length - places) ++ '.' :: digits.drop (digits.length - places)

/-- The text of a floating-point number. -/
def plain (x : Float) : List Char :=
  if x.isNaN then "NaN".toList
  else
    let sign := if isNegative x then ['-'] else []
    if x.isInf then sign ++ "inf".toList
    else if x == 0.0 then sign ++ ['0']
    else
      let (mantissa, exponent) := shortest x
      sign ++ positional mantissa exponent

end PaperSearch.Number
