import PaperSearch.Fields
import PaperSearch.Number.Decimal

/-!
# JSON values

Integers and other numbers are kept apart, as many readers keep them apart: `1` is an integer,
`1.0` and `1e0` are decimals. A decimal that was read has the first digits of what was written, as
many as 64 bits hold.

* `Json.field?` looks up a name of an object.
-/

namespace PaperSearch

inductive Json where
  | null
  | bool (b : Bool)
  | int (n : Int)
  /-- A number with a sign, a mantissa and a power of ten. -/
  | decimal (negative : Bool) (mantissa : Nat) (exponent : Int)
  | str (s : String)
  | arr (items : List Json)
  | obj (fields : List (String × Json))
  deriving Repr, Inhabited

namespace Json

/-- The value of a name of an object. -/
def field? (j : Json) (name : String) : Option Json :=
  match j with
  | obj fields => fields.lookup name
  | _ => none

def string? : Json → Option String
  | str s => some s
  | _ => none

def bool? : Json → Option Bool
  | bool b => some b
  | _ => none

def items? : Json → Option (List Json)
  | arr items => some items
  | _ => none

/-- An integer from 0 to a bound, the bound excluded. -/
def natBelow? (bound : Nat) : Json → Option Nat
  | int n => if 0 ≤ n ∧ n < bound then some n.toNat else none
  | _ => none

/-- A count of 64 bits. -/
def count? (j : Json) : Option UInt64 :=
  (j.natBelow? UInt64.size).map UInt64.ofNat

/-- The number that a decimal is taken for. It is not always the nearest one: a quick way to one
near it is laid down by `Number.scaled?`. -/
def number (negative : Bool) (mantissa : Nat) (exponent : Int) : Float :=
  let size := (Number.scaled? mantissa exponent).getD (1.0 / 0.0)
  if negative then -size else size

/-- Any number, as a floating-point number. -/
def float? : Json → Option Float
  | int n => some (Number.ofDecimal (decide (n < 0)) n.natAbs 0)
  | decimal negative mantissa exponent => some (number negative mantissa exponent)
  | _ => none

end Json
end PaperSearch
