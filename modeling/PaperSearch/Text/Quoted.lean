import PaperSearch.Text.Extending
import PaperSearch.Text.Unprintable

/-!
# Quoted texts

A text in double quotes, as messages show it. Backslash, quote and the common control characters
are escaped by a letter, other characters that would not show by their number in hexadecimal.

* `quoted` is the quoted form of a text.
-/

namespace PaperSearch.Text

/-- The lower-case hexadecimal digits of a number. -/
def hexadecimal (n : Nat) : List Char :=
  Nat.toDigits 16 n

/-- A character as a quoted text shows it. -/
def quotedChar (c : Char) : List Char :=
  if c = '"' then ['\\', '"']
  else if c = '\\' then ['\\', '\\']
  else if c = '\n' then ['\\', 'n']
  else if c = '\r' then ['\\', 'r']
  else if c = '\t' then ['\\', 't']
  else if c.toNat = 0 then ['\\', '0']
  else if 32 ≤ c.toNat ∧ c.toNat < 127 then [c]
  else if isUnprintable c || isExtending c then
    ['\\', 'u', '\x7b'] ++ hexadecimal c.toNat ++ ['\x7d']
  else [c]

def quoted (s : List Char) : List Char :=
  '"' :: s.flatMap quotedChar ++ ['"']

end PaperSearch.Text
