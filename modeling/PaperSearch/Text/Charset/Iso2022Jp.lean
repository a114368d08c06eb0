import PaperSearch.Text.Charset.ShiftJis

/-!
# ISO-2022-JP

Seven bits a byte: an escape sequence of three bytes says which set the bytes after it are in. An
escape sequence with no character before the next one is no proper use of them, so the second of two
that follow one another counts as malformed, though it takes effect.
-/

namespace PaperSearch.Text.Charset

/-- The set that bytes are in. -/
inductive JapaneseSet where
  | ascii
  /-- The Japanese variant of ASCII. -/
  | roman
  /-- Kana of half width. -/
  | kana
  /-- JIS X 0208, two bytes a character. -/
  | kanji
  deriving DecidableEq, Repr

namespace JapaneseSet

/-- The set that the two bytes after an escape byte name. -/
def ofEscape? (b c : UInt8) : Option JapaneseSet :=
  if b = 0x28 then
    if c = 0x42 then some ascii else if c = 0x4A then some roman
    else if c = 0x49 then some kana else none
  else if b = 0x24 ∧ (c = 0x40 ∨ c = 0x42) then some kanji
  else none

/-- The character of one byte. -/
def single? (set : JapaneseSet) (b : Nat) : Option Char :=
  match set with
  | ascii => if b = 0x0E ∨ b = 0x0F then none else ascii? b
  | roman =>
    if b = 0x5C then some '¥'
    else if b = 0x7E then some '‾'
    else if b = 0x0E ∨ b = 0x0F then none
    else ascii? b
  | kana => if 0x21 ≤ b ∧ b ≤ 0x5F then some (halfKana (b - 0x21)) else none
  | kanji => none

end JapaneseSet

/-- Is a byte the number of a row or a cell in seven bits? -/
def isShortCellByte (b : Nat) : Bool :=
  0x21 ≤ b && b ≤ 0x7E

/-- The text of bytes in a set. The mark tells that an escape sequence came last. -/
def fromIso2022Jp (set : JapaneseSet) (escaped : Bool) : List UInt8 → List Char
  | [] => []
  | 0x1B :: b :: c :: rest =>
    match JapaneseSet.ofEscape? b c with
    | some next =>
      if escaped then replacement :: fromIso2022Jp next true rest
      else fromIso2022Jp next true rest
    | none => replacement :: fromIso2022Jp set false (b :: c :: rest)
  | 0x1B :: rest => replacement :: fromIso2022Jp set false rest
  | b :: rest =>
    if set = .kanji ∧ isShortCellByte b.toNat then
      match rest with
      | [] => [replacement]
      | c :: rest =>
        if c = 0x1B then replacement :: fromIso2022Jp set false (c :: rest)
        else
          let char? :=
            if isShortCellByte c.toNat then jis0208.char? (b.toNat - 0x21) (c.toNat - 0x21)
            else none
          char?.getD replacement :: fromIso2022Jp set false rest
    else (set.single? b.toNat).getD replacement :: fromIso2022Jp set false rest

/-- The text of bytes, which begin in ASCII. -/
def ofIso2022Jp (bytes : List UInt8) : List Char :=
  fromIso2022Jp .ascii false bytes

end PaperSearch.Text.Charset
