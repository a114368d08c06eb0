import PaperSearch.Text.Charset.DoubleByte
import PaperSearch.Text.Charset.Ksx1001

/-!
# EUC-KR

ASCII in one byte and the plane of KS X 1001 in two. The syllables that the plane lacks stand, in
the order of their code points, in the pairs of bytes that the plane leaves free: 178 for a first
byte below that of the first row, and 84 for one from there on.
-/

namespace PaperSearch.Text.Charset

/-- The syllables that KS X 1001 lacks. -/
def furtherSyllables : Array Char :=
  (unmarked (marks ksx1001.toList) (block 0xAC00 11172)).toArray

/-- The number of a second byte among those that may follow a first one. -/
def syllableCell? (trail : Nat) : Option Nat :=
  if 0x41 ≤ trail ∧ trail ≤ 0x5A then some (trail - 0x41)
  else if 0x61 ≤ trail ∧ trail ≤ 0x7A then some (trail - 0x61 + 26)
  else if 0x81 ≤ trail ∧ trail ≤ 0xFE then some (trail - 0x81 + 52)
  else none

def eucKrPair? (lead trail : Nat) : Option Char :=
  if 0xA1 ≤ lead ∧ 0xA1 ≤ trail then ksx1001.char? (lead - 0xA1) (trail - 0xA1)
  else
    (syllableCell? trail).bind fun cell =>
      if lead < 0xA1 then furtherSyllables[178 * (lead - 0x81) + cell]?
      else furtherSyllables[178 * 32 + 84 * (lead - 0xA1) + cell]?

def eucKr : DoubleByte where
  isLead b := 0x81 ≤ b && b ≤ 0xFE
  single? := ascii?
  pair? lead trail := (eucKrPair? lead trail).map ([·])

end PaperSearch.Text.Charset
