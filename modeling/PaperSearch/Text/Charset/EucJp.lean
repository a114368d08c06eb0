import PaperSearch.Text.Charset.Jis0212
import PaperSearch.Text.Charset.ShiftJis

/-!
# EUC-JP

ASCII in one byte, the plane of JIS X 0208 and the kana of half width in two bytes, and the plane of
JIS X 0212 in three.
-/

namespace PaperSearch.Text.Charset

/-- Is a byte the number of a row or a cell? -/
def isCellByte (b : Nat) : Bool :=
  0xA1 ≤ b && b ≤ 0xFE

/-- The characters of one byte and of two. -/
def eucJpShort : DoubleByte where
  isLead b := b == 0x8E || b == 0x8F || isCellByte b
  single? := ascii?
  pair? lead trail :=
    if lead = 0x8E then
      if 0xA1 ≤ trail ∧ trail ≤ 0xDF then some [halfKana (trail - 0xA1)] else none
    else if isCellByte lead && isCellByte trail then
      (jis0208.char? (lead - 0xA1) (trail - 0xA1)).map ([·])
    else none

/-- The character of three bytes of which the first is 8F. -/
def eucJpLong? (row cell : Nat) : Option Char :=
  if isCellByte cell then jis0212.char? (row - 0xA1) (cell - 0xA1) else none

/-- The text of bytes. Three bytes that are no character are read like two of them. -/
def ofEucJp : List UInt8 → List Char
  | [] => []
  | [b] => eucJpShort.decode [b]
  | b :: c :: rest =>
    if b.toNat = 0x8F ∧ isCellByte c.toNat then
      match rest with
      | [] => [replacement]
      | d :: rest =>
        match eucJpLong? c.toNat d.toNat with
        | some char => char :: ofEucJp rest
        | none => replacement :: ofEucJp (resumeAt d rest)
    else if eucJpShort.isLead b.toNat then
      match eucJpShort.pair? b.toNat c.toNat with
      | some text => text ++ ofEucJp rest
      | none => replacement :: ofEucJp (resumeAt c rest)
    else (eucJpShort.single? b.toNat).getD replacement :: ofEucJp (c :: rest)
termination_by bytes => bytes.length
decreasing_by
  all_goals simp only [List.length_cons]
  any_goals omega
  · have := resumeAt_length d rest
    omega
  · have := resumeAt_length c rest
    omega

end PaperSearch.Text.Charset
