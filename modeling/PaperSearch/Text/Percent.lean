import PaperSearch.Text.Digits

/-!
# Percent escapes

A byte may stand as `%` and two hexadecimal digits.

* `unescape` turns escapes into bytes and leaves a `%` that begins none as it is.
* `decode?` reads a text whose bytes, once unescaped, must be UTF-8.
* `formEncode` writes a text in the alphabet of HTML forms.
-/

namespace PaperSearch.Text

/-- The UTF-8 bytes of a text. -/
def utf8 (s : List Char) : List UInt8 :=
  (String.ofList s).toByteArray.data.toList

/-- The text that has these UTF-8 bytes, if there is one. -/
def ofUtf8? (bytes : List UInt8) : Option (List Char) :=
  (String.fromUTF8? ⟨bytes.toArray⟩).map String.toList

namespace Percent

/-- The byte that two hexadecimal digits stand for. -/
def hexByte? (high low : UInt8) : Option UInt8 := do
  let h ← hexValue? (Char.ofNat high.toNat)
  let l ← hexValue? (Char.ofNat low.toNat)
  pure (UInt8.ofNat (16 * h + l))

/-- Replaces every escape by its byte. -/
def unescape : List UInt8 → List UInt8
  | [] => []
  | [b] => [b]
  | [b, c] => [b, c]
  | b :: high :: low :: rest =>
    if b = 37 then
      match hexByte? high low with
      | some byte => byte :: unescape rest
      | none => b :: unescape (high :: low :: rest)
    else b :: unescape (high :: low :: rest)

/-- The text that an escaped text stands for; none when its bytes are not UTF-8. -/
def decode? (s : List Char) : Option (List Char) :=
  ofUtf8? (unescape (utf8 s))

/-- An upper-case hexadecimal digit. -/
def hexDigit (n : Nat) : Char :=
  if n < 10 then Char.ofNat (48 + n) else Char.ofNat (55 + n)

/-- A byte written as an escape. -/
def escapeByte (b : UInt8) : List Char :=
  ['%', hexDigit (b.toNat / 16), hexDigit (b.toNat % 16)]

/-- Bytes that stand for themselves in a form: ASCII letters and digits and `*`, `-`, `.`, `_`. -/
def isFormSafe (b : UInt8) : Bool :=
  let n := b.toNat
  (48 ≤ n && n ≤ 57) || (65 ≤ n && n ≤ 90) || (97 ≤ n && n ≤ 122) ||
    n == 42 || n == 45 || n == 46 || n == 95

def formByte (b : UInt8) : List Char :=
  if isFormSafe b then [Char.ofNat b.toNat]
  else if b = 32 then ['+']
  else escapeByte b

/-- A text as a form writes it: safe bytes as they are, a space as `+`, all else escaped. -/
def formEncode (s : List Char) : List Char :=
  (utf8 s).flatMap formByte

/-- Named values as a form writes them. -/
def formPairs (pairs : List (List Char × List Char)) : List Char :=
  match pairs with
  | [] => []
  | [(name, value)] => formEncode name ++ '=' :: formEncode value
  | (name, value) :: rest => formEncode name ++ '=' :: formEncode value ++ '&' :: formPairs rest

end Percent
end PaperSearch.Text
