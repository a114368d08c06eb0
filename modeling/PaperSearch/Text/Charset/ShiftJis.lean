import PaperSearch.Text.Charset.DoubleByte
import PaperSearch.Text.Charset.Jis0208

/-!
# Shift_JIS

ASCII and kana of half width in one byte, the plane of JIS X 0208 in two. A first byte stands for
two rows of the plane. Twenty rows between the standard and its additions are for private use.
-/

namespace PaperSearch.Text.Charset

/-- A kana of half width, counted from the ideographic full stop. -/
def halfKana (n : Nat) : Char :=
  Char.ofNat (0xFF61 + n)

/-- The character of a cell of JIS X 0208, its cells counted through all rows. -/
def shiftJisCell? (n : Nat) : Option Char :=
  if 8836 ≤ n ∧ n ≤ 10715 then some (Char.ofNat (0xE000 + (n - 8836)))
  else jis0208.char? (n / 94) (n % 94)

def shiftJisPair? (lead trail : Nat) : Option Char :=
  if (0x40 ≤ trail ∧ trail ≤ 0x7E) ∨ (0x80 ≤ trail ∧ trail ≤ 0xFC) then
    let row := if lead < 0xA0 then lead - 0x81 else lead - 0xC1
    let cell := if trail < 0x7F then trail - 0x40 else trail - 0x41
    shiftJisCell? (188 * row + cell)
  else none

def shiftJis : DoubleByte where
  isLead b := (0x81 ≤ b && b ≤ 0x9F) || (0xE0 ≤ b && b ≤ 0xFC)
  single? b :=
    if b ≤ 0x80 then some (Char.ofNat b)
    else if 0xA1 ≤ b ∧ b ≤ 0xDF then some (halfKana (b - 0xA1))
    else none
  pair? lead trail := (shiftJisPair? lead trail).map ([·])

end PaperSearch.Text.Charset
