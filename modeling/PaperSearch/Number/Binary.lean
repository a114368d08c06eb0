/-!
# The parts of a floating-point number

The size of a finite floating-point number is a mantissa below `2 ^ 53` times a power of two.

* `Binary.ofFloat` takes a number apart.
-/

namespace PaperSearch.Number

/-- The least mantissa of a number that is not among the smallest ones, `2 ^ 52`. -/
def mantissaBase : Nat := 4503599627370496

/-- The size `mantissa * 2 ^ (place - 1075)`. -/
structure Binary where
  mantissa : Nat
  /-- From 1, for the smallest numbers, to 2046. -/
  place : Nat
  deriving DecidableEq, Repr

namespace Binary

/-- The parts of a finite number, without its sign. -/
def ofFloat (x : Float) : Binary :=
  let bits := x.toBits.toNat
  let fraction := bits % mantissaBase
  let place := bits / mantissaBase % 2048
  if place = 0 then ⟨fraction, 1⟩ else ⟨mantissaBase + fraction, place⟩

end Binary

/-- Is the sign of a number a minus? -/
def isNegative (x : Float) : Bool :=
  9223372036854775808 ≤ x.toBits.toNat

end PaperSearch.Number
