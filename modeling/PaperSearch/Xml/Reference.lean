import PaperSearch.Text.Cut
import PaperSearch.Text.Digits

/-!
# References

In text and in attribute values, `&name;` stands for one of five characters and `&#number;` for
the character with that number.

* `Xml.expand` replaces the references of a text by what they stand for.
-/

namespace PaperSearch.Xml

/-- Why a number names no character. -/
inductive NumberFault where
  | sign
  | empty
  | invalidDigit
  | tooLarge
  | zero
  | noCharacter (number : Nat)
  deriving DecidableEq, Repr

def NumberFault.message : NumberFault → String
  | sign => "unexpected number sign"
  | empty => "cannot parse integer from empty string"
  | invalidDigit => "invalid digit found in string"
  | tooLarge => "number too large to fit in target type"
  | zero => "0x0 character is not permitted in XML"
  | noCharacter number =>
    "`" ++ String.ofList (Text.decimal number) ++ "` is not a valid codepoint"

/-- Why a reference stands for nothing. Places are byte offsets in the text. -/
inductive ReferenceFault where
  | unterminated (first stop : Nat)
  | unknownName (first stop : Nat) (name : String)
  | number (fault : NumberFault)
  deriving DecidableEq, Repr

/-- A range of places. -/
def rangeText (first stop : Nat) : String :=
  String.ofList (Text.decimal first) ++ ".." ++ String.ofList (Text.decimal stop)

def ReferenceFault.message : ReferenceFault → String
  | unterminated first stop =>
    "Error while escaping character at range " ++ rangeText first stop ++
      ": Cannot find ';' after '&'"
  | unknownName first stop name =>
    "at " ++ rangeText first stop ++ ": unrecognized entity `" ++ name ++ "`"
  | number fault => "invalid character reference: " ++ fault.message

/-- The value of a digit in a base up to sixteen. -/
def digitIn? (base : Nat) (c : Char) : Option Nat :=
  let n := c.toNat
  let value :=
    if 48 ≤ n ∧ n ≤ 57 then n - 48
    else if 65 ≤ n ∧ n ≤ 70 then n - 55
    else if 97 ≤ n ∧ n ≤ 102 then n - 87
    else base
  if value < base then some value else none

/-- The 32-bit number whose digits follow those of `n`. A digit is looked at before the size. -/
def number (base n : Nat) : List Char → Except NumberFault Nat
  | [] => .ok n
  | c :: rest =>
    match digitIn? base c with
    | none => .error .invalidDigit
    | some digit =>
      if base * n + digit < UInt32.size then number base (base * n + digit) rest
      else .error .tooLarge

/-- The number that digits without a sign write. -/
def unsigned (base : Nat) : List Char → Except NumberFault Nat
  | [] => .error .empty
  | c :: rest => if c = '+' ∨ c = '-' then .error .sign else number base 0 (c :: rest)

/-- The character that a number names: hexadecimal after an `x`, decimal without one. -/
def numbered (s : List Char) : Except NumberFault Char := do
  let n ← match s with
    | 'x' :: digits => unsigned 16 digits
    | digits => unsigned 10 digits
  if n = 0 then throw .zero
  else if Nat.isValidChar n then return Char.ofNat n
  else throw (.noCharacter n)

/-- The character that a name stands for. -/
def named? (name : List Char) : Option Char :=
  if name = "lt".toList then some '<'
  else if name = "gt".toList then some '>'
  else if name = "amp".toList then some '&'
  else if name = "apos".toList then some '\''
  else if name = "quot".toList then some '"'
  else none

/-- What a reference stands for, given what is between its `&` and its `;` and where that
starts. -/
def resolve (place : Nat) (reference : List Char) : Except ReferenceFault Char :=
  match reference with
  | '#' :: digits => (numbered digits).mapError .number
  | name =>
    match named? name with
    | some c => .ok c
    | none =>
      .error (.unknownName place (place + Text.byteLength name) (String.ofList name))

/-- Replaces the references of a text, the end of a text of `size` bytes. -/
def expandFrom (size : Nat) (s : List Char) : Except ReferenceFault (List Char) :=
  match s with
  | [] => .ok []
  | c :: rest =>
    if c = '&' then
      match _cut : Text.cutAt? (fun d => d == ';') rest with
      | none => .error (.unterminated (size - Text.byteLength s) size)
      | some (reference, after) =>
        if reference.contains '&' then
          .error (.unterminated (size - Text.byteLength s) size)
        else do
          let character ← resolve (size - Text.byteLength rest) reference
          let tail ← expandFrom size after
          return character :: tail
    else (expandFrom size rest).map (c :: ·)
termination_by s.length
decreasing_by
  · have := Text.cutAt?_length _cut
    simp only [List.length_cons] at *; omega
  · simp

/-- A text with its references replaced. -/
def expand (s : List Char) : Except ReferenceFault (List Char) :=
  expandFrom (Text.byteLength s) s

end PaperSearch.Xml
