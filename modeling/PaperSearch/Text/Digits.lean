/-!
# Decimal digits

Numbers are written and read in ASCII digits.

* `decimal` writes a number with no leading zero.
* `padded` writes it in a fixed number of places, the leading digits lost when they do not fit.
* `natural?` reads a text that holds digits only.
* `count?` reads a 64-bit count, with at most one `+` before its digits.
* `hexValue?` is the value of a hexadecimal digit.
-/

namespace PaperSearch.Text

def isDigit (c : Char) : Bool :=
  48 ≤ c.toNat && c.toNat ≤ 57

def digitValue (c : Char) : Nat :=
  c.toNat - 48

/-- The digit of a number below ten. -/
def digitChar (n : Nat) : Char :=
  Char.ofNat (48 + n % 10)

/-- The last digits of a number, in exactly so many places. -/
def padded : Nat → Nat → List Char
  | 0, _ => []
  | places + 1, n => padded places (n / 10) ++ [digitChar n]

/-- The digits of a number, most significant first. -/
def decimal (n : Nat) : List Char :=
  if n < 10 then [digitChar n] else decimal (n / 10) ++ [digitChar n]
termination_by n

/-- A number in at least so many places. -/
def atLeast (places n : Nat) : List Char :=
  if n < Nat.pow 10 places then padded places n else decimal n

/-- The number whose digits follow those of `n`. -/
def naturalFrom? (n : Nat) : List Char → Option Nat
  | [] => some n
  | c :: rest => if isDigit c then naturalFrom? (10 * n + digitValue c) rest else none

/-- The number that a text of one or more digits writes. -/
def natural? : List Char → Option Nat
  | [] => none
  | s => naturalFrom? 0 s

/-- The 64-bit number that a text writes: one `+` if any, then digits. -/
def count? (s : List Char) : Option UInt64 :=
  let digits := match s with
    | '+' :: rest => rest
    | rest => rest
  match natural? digits with
  | some n => if n < UInt64.size then some (UInt64.ofNat n) else none
  | none => none

/-- The value of a hexadecimal digit of either case. -/
def hexValue? (c : Char) : Option Nat :=
  if isDigit c then some (digitValue c)
  else if 'a' ≤ c ∧ c ≤ 'f' then some (c.toNat - 87)
  else if 'A' ≤ c ∧ c ≤ 'F' then some (c.toNat - 55)
  else none

end PaperSearch.Text
