import PaperSearch.Json.Basic
import PaperSearch.Text.Digits

/-!
# The words of a JSON text

A JSON text is read character by character. Strings, numbers and the three named values are one
lexeme each, every mark of punctuation is one, and white space between them is dropped.

* `Lexeme.ofText?` splits a text; it fails on anything that JSON does not know.
-/

namespace PaperSearch.Json

inductive Lexeme where
  | openObject
  | closeObject
  | openArray
  | closeArray
  | comma
  | colon
  /-- A string, a number, a truth value or null. -/
  | scalar (value : Json)

namespace Lexeme

/-! ## Numbers -/

/-- Digits, with the rest of the text. -/
def spanDigits (s : List Char) : List Char × List Char :=
  (s.takeWhile Text.isDigit, s.dropWhile Text.isDigit)

/-- The mantissa that digits are added to, up to the first one that 64 bits do not hold, and the
digits left out. -/
def addDigits (mantissa : Nat) : List Char → Nat × List Char
  | [] => (mantissa, [])
  | c :: rest =>
    let more := 10 * mantissa + Text.digitValue c
    if more < UInt64.size then addDigits more rest else (mantissa, c :: rest)

/-- An integer without a fraction and an exponent. One that 64 bits cannot hold with its sign is a
decimal, and so is a zero with a sign. -/
def integer (negative : Bool) (n : Nat) : Json :=
  if !negative then .int n
  else if 0 < n ∧ Number.fitsInt64 (-(n : Int)) then .int (-(n : Int))
  else .decimal true n 0

/-- A decimal that is not too large for a floating-point number. -/
def decimal? (negative : Bool) (mantissa : Nat) (exponent : Int) : Option Json :=
  (Number.scaled? mantissa exponent).map fun _ => .decimal negative mantissa exponent

/-- A number without its sign. Each digit left out before the point stands for a power of ten. -/
def unsigned? (negative : Bool) (s : List Char) : Option Json :=
  let (whole, rest) := spanDigits s
  let (n, beyond) := addDigits 0 whole
  if whole.isEmpty ∨ (1 < whole.length ∧ whole.head? = some '0') then none
  else match rest with
    | [] =>
      if beyond.isEmpty then some (integer negative n) else decimal? negative n beyond.length
    | '.' :: afterPoint =>
      let (places, rest) := spanDigits afterPoint
      let (n, ignored) := addDigits n places
      if places.isEmpty then none
      else (Number.exponent? rest).bind fun exponent =>
        decimal? negative n (exponent + beyond.length + ignored.length - places.length)
    | rest =>
      (Number.exponent? rest).bind fun exponent =>
        decimal? negative n (exponent + beyond.length)

def number? (s : List Char) : Option Json :=
  match s with
  | '-' :: rest => unsigned? true rest
  | _ => unsigned? false s

def name? (s : List Char) : Option Json :=
  if s = "null".toList then some .null
  else if s = "true".toList then some (.bool true)
  else if s = "false".toList then some (.bool false)
  else none

/-! ## Characters -/

/-- What is open when a character is read. Texts are held last character first. -/
inductive State where
  | between
  | inString (text : List Char)
  | afterBackslash (text : List Char)
  /-- In a `\u` escape: what its digits say so far, how many are missing, and the first half of a
  surrogate pair if one has been read. -/
  | inUnicode (text : List Char) (high : Option Nat) (code missing : Nat)
  /-- After the first half of a surrogate pair. -/
  | afterHigh (text : List Char) (high : Nat)
  | afterHighBackslash (text : List Char) (high : Nat)
  | inNumber (text : List Char)
  | inName (text : List Char)

def isSpace (c : Char) : Bool :=
  c == ' ' || c == '\t' || c == '\n' || c == '\r'

def isNumberChar (c : Char) : Bool :=
  Text.isDigit c || c == '-' || c == '+' || c == '.' || c == 'e' || c == 'E'

def isNameChar (c : Char) : Bool :=
  'a' ≤ c && c ≤ 'z'

/-- A character that no open lexeme takes. -/
def start? (c : Char) : Option (State × List Lexeme) :=
  if isSpace c then some (.between, [])
  else if c = '{' then some (.between, [.openObject])
  else if c = '}' then some (.between, [.closeObject])
  else if c = '[' then some (.between, [.openArray])
  else if c = ']' then some (.between, [.closeArray])
  else if c = ',' then some (.between, [.comma])
  else if c = ':' then some (.between, [.colon])
  else if c = '"' then some (.inString [], [])
  else if c = '-' ∨ Text.isDigit c then some (.inNumber [c], [])
  else if isNameChar c then some (.inName [c], [])
  else none

/-- The character after a backslash that stands for another one. -/
def escape? (c : Char) : Option Char :=
  if c = '"' ∨ c = '\\' ∨ c = '/' then some c
  else if c = 'b' then some (Char.ofNat 8)
  else if c = 'f' then some (Char.ofNat 12)
  else if c = 'n' then some '\n'
  else if c = 'r' then some '\r'
  else if c = 't' then some '\t'
  else none

/-- A complete `\u` escape. A pair of surrogates is one character, a lone one is none. -/
def unicode? (text : List Char) (high : Option Nat) (code : Nat) : Option State :=
  match high with
  | none =>
    if 0xD800 ≤ code ∧ code ≤ 0xDBFF then some (.afterHigh text code)
    else if 0xDC00 ≤ code ∧ code ≤ 0xDFFF then none
    else some (.inString (Char.ofNat code :: text))
  | some high =>
    if 0xDC00 ≤ code ∧ code ≤ 0xDFFF then
      some (.inString (Char.ofNat (0x10000 + (high - 0xD800) * 0x400 + (code - 0xDC00)) :: text))
    else none

/-- One character more. -/
def step? (state : State) (c : Char) : Option (State × List Lexeme) :=
  match state with
  | .between => start? c
  | .inString text =>
    if c = '"' then some (.between, [.scalar (.str (String.ofList text.reverse))])
    else if c = '\\' then some (.afterBackslash text, [])
    else if c.toNat < 32 then none
    else some (.inString (c :: text), [])
  | .afterBackslash text =>
    if c = 'u' then some (.inUnicode text none 0 4, [])
    else (escape? c).map fun e => (.inString (e :: text), [])
  | .inUnicode text high code missing =>
    match Text.hexValue? c with
    | none => none
    | some d =>
      let code := 16 * code + d
      if missing ≤ 1 then (unicode? text high code).map fun s => (s, [])
      else some (.inUnicode text high code (missing - 1), [])
  | .afterHigh text high =>
    if c = '\\' then some (.afterHighBackslash text high, []) else none
  | .afterHighBackslash text high =>
    if c = 'u' then some (.inUnicode text (some high) 0 4, []) else none
  | .inNumber text =>
    if isNumberChar c then some (.inNumber (c :: text), [])
    else do
      let value ← number? text.reverse
      let (state, lexemes) ← start? c
      return (state, .scalar value :: lexemes)
  | .inName text =>
    if isNameChar c then some (.inName (c :: text), [])
    else do
      let value ← name? text.reverse
      let (state, lexemes) ← start? c
      return (state, .scalar value :: lexemes)

/-- The end of the text. -/
def finish? : State → Option (List Lexeme)
  | .between => some []
  | .inNumber text => (number? text.reverse).map fun v => [.scalar v]
  | .inName text => (name? text.reverse).map fun v => [.scalar v]
  | _ => none

/-- The lexemes from a state on, after those already read, which stand last first. -/
def scan? (state : State) (done : List Lexeme) : List Char → Option (List Lexeme)
  | [] => (finish? state).map fun last => done.reverse ++ last
  | c :: rest =>
    match step? state c with
    | some (state, lexemes) => scan? state (lexemes.reverse ++ done) rest
    | none => none

def ofText? (s : List Char) : Option (List Lexeme) :=
  scan? .between [] s

end Lexeme
end PaperSearch.Json
