import PaperSearch.Text.Charset.Big5Plane
import PaperSearch.Text.Charset.DoubleByte

/-!
# Big5

ASCII in one byte and the plane of Big5 in two. Four pairs of bytes are a letter with a mark of its
own.
-/

namespace PaperSearch.Text.Charset

/-- Letters with marks that are no single character. -/
def big5Marked : List ((Nat × Nat) × List Char) :=
  [((0x88, 0x62), ['Ê', '\u0304']), ((0x88, 0x64), ['Ê', '\u030C']),
   ((0x88, 0xA3), ['ê', '\u0304']), ((0x88, 0xA5), ['ê', '\u030C'])]

def big5Cell? (lead trail : Nat) : Option Char :=
  if 0x40 ≤ trail ∧ trail ≤ 0x7E then big5Plane.char? (lead - 0x81) (trail - 0x40)
  else if 0xA1 ≤ trail ∧ trail ≤ 0xFE then big5Plane.char? (lead - 0x81) (trail - 0x62)
  else none

def big5 : DoubleByte where
  isLead b := 0x81 ≤ b && b ≤ 0xFE
  single? := ascii?
  pair? lead trail :=
    match big5Marked.find? fun (pair, _) => pair == (lead, trail) with
    | some (_, text) => some text
    | none => (big5Cell? lead trail).map ([·])

end PaperSearch.Text.Charset
