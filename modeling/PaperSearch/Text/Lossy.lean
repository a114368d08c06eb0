import PaperSearch.Text.Percent

/-!
# Reading malformed text

Bytes that are no text become U+FFFD: one for every longest run of bytes that begins a character.

* `ofUtf8Lossy` reads UTF-8.
* `ofUtf16Lossy` reads UTF-16 in either byte order.
-/

namespace PaperSearch.Text

/-- What stands for bytes that are no text. -/
def replacement : Char := '\ufffd'

/-- A character whose first bytes have been read. -/
structure Partial where
  code : Nat
  /-- How many bytes are missing. -/
  missing : Nat
  /-- The least and the greatest value of the next byte. -/
  low : Nat
  high : Nat

/-- The character that a byte begins: itself, more bytes to come, or none. -/
def firstByte (b : Nat) : Option (Char ⊕ Partial) :=
  if b < 0x80 then some (.inl (Char.ofNat b))
  else if b < 0xC2 then none
  else if b < 0xE0 then some (.inr ⟨b - 0xC0, 1, 0x80, 0xBF⟩)
  else if b < 0xF0 then
    some (.inr ⟨b - 0xE0, 2, if b = 0xE0 then 0xA0 else 0x80, if b = 0xED then 0x9F else 0xBF⟩)
  else if b < 0xF5 then
    some (.inr ⟨b - 0xF0, 3, if b = 0xF0 then 0x90 else 0x80, if b = 0xF4 then 0x8F else 0xBF⟩)
  else none

/-- A byte where a character begins. -/
def beginChar (b : Nat) : List Char × Option Partial :=
  match firstByte b with
  | some (.inl c) => ([c], none)
  | some (.inr p) => ([], some p)
  | none => ([replacement], none)

/-- One byte more. -/
def nextByte (p : Option Partial) (b : Nat) : List Char × Option Partial :=
  match p with
  | none => beginChar b
  | some p =>
    if p.low ≤ b ∧ b ≤ p.high then
      let code := 64 * p.code + (b - 0x80)
      if p.missing ≤ 1 then ([Char.ofNat code], none)
      else ([], some ⟨code, p.missing - 1, 0x80, 0xBF⟩)
    else
      let (chars, p) := beginChar b
      (replacement :: chars, p)

def utf8From (p : Option Partial) : List UInt8 → List Char
  | [] => if p.isSome then [replacement] else []
  | b :: rest =>
    let (chars, p) := nextByte p b.toNat
    chars ++ utf8From p rest

/-- The text of bytes in UTF-8. -/
def ofUtf8Lossy (bytes : List UInt8) : List Char :=
  utf8From none bytes

/-- The units of 16 bits that bytes make, and whether a byte is left over. -/
def units16 (bigEndian : Bool) : List UInt8 → List Nat × Bool
  | a :: b :: rest =>
    let (units, odd) := units16 bigEndian rest
    ((if bigEndian then 256 * a.toNat + b.toNat else 256 * b.toNat + a.toNat) :: units, odd)
  | [_] => ([], true)
  | [] => ([], false)

/-- The characters of units of 16 bits. Half of a pair alone is no character. -/
def ofUnits : List Nat → List Char
  | [] => []
  | [u] => [if 0xD800 ≤ u ∧ u < 0xE000 then replacement else Char.ofNat u]
  | u :: v :: rest =>
    if 0xD800 ≤ u ∧ u < 0xDC00 ∧ 0xDC00 ≤ v ∧ v < 0xE000 then
      Char.ofNat (0x10000 + (u - 0xD800) * 0x400 + (v - 0xDC00)) :: ofUnits rest
    else (if 0xD800 ≤ u ∧ u < 0xE000 then replacement else Char.ofNat u) :: ofUnits (v :: rest)

/-- The text of bytes in UTF-16. -/
def ofUtf16Lossy (bigEndian : Bool) (bytes : List UInt8) : List Char :=
  let (units, odd) := units16 bigEndian bytes
  ofUnits units ++ if odd then [replacement] else []

end PaperSearch.Text
