import PaperSearch.Text.Charset.DoubleByte
import PaperSearch.Text.Charset.Gb2312

/-!
# GB 18030

All of Unicode: ASCII in one byte, the plane of GB 2312 and what extends it in two, and what then is
left in four.

* The ideographs that the plane lacks stand, in the order of their code points, in the pairs of
  bytes that the plane leaves free.
* The four bytes number the other code points, in their order.
* Some characters of private use were `revised` to others after all this had been numbered.
-/

namespace PaperSearch.Text.Charset

/-- The ideographs that GB 2312 lacks. -/
def hanzi : Array Char :=
  (unmarked (marks gb2312.toList) (block 0x4E00 20902) ++
    furtherHanzi.flatMap String.toList).toArray

/-- The character of two bytes by the first numbering. -/
def gbFirstPair? (lead trail : Nat) : Option Char :=
  if (0x40 ≤ trail ∧ trail ≤ 0x7E) ∨ (0x80 ≤ trail ∧ trail ≤ 0xFE) then
    let cell := if trail < 0x7F then trail - 0x40 else trail - 0x41
    if lead < 0xA1 then hanzi[190 * (lead - 0x81) + cell]?
    else if 0xA1 ≤ trail then gb2312.char? (lead - 0xA1) (trail - 0xA1)
    else if lead < 0xA8 then some (Char.ofNat (0xE4C6 + 96 * (lead - 0xA1) + cell))
    else if lead < 0xAA then furtherSigns.char? (lead - 0xA8) cell
    else hanzi[190 * 32 + 96 * (lead - 0xAA) + cell]?
  else none

/-- The characters of two bytes by the first numbering. -/
def gbPairs : List Char :=
  (List.range' 0x81 126).flatMap fun lead =>
    (List.range' 0x40 191).filterMap fun trail => gbFirstPair? lead trail

/-- The other characters below 2^16 from 128 on, which four bytes number. -/
def gbFourBytes : Array Char :=
  (unmarked (marks gbPairs) (block 0x80 0xD780 ++ block 0xE000 0x2000)).toArray

/-- Characters of private use and what stands in their place. -/
def revised : List (Char × Char) :=
  [('\ue5e5', '\u3000'), ('\ue7c7', 'ḿ'), ('\ue78d', '︐'), ('\ue78e', '︒'), ('\ue78f', '︑'),
   ('\ue790', '︓'), ('\ue791', '︔'), ('\ue792', '︕'), ('\ue793', '︖'), ('\ue794', '︗'),
   ('\ue795', '︘'), ('\ue796', '︙'), ('\ue81e', '龴'), ('\ue826', '龵'), ('\ue82b', '龶'),
   ('\ue82c', '龷'), ('\ue832', '龸'), ('\ue843', '龹'), ('\ue854', '龺'), ('\ue864', '龻')]

/-- The character of two bytes. -/
def gbPair? (lead trail : Nat) : Option Char :=
  (gbFirstPair? lead trail).map fun c => (revised.lookup c).getD c

/-- The character with a number in four bytes. Number 7457 went to a character of private use when
the letter that had it got a form in two bytes. -/
def gbNumber? (n : Nat) : Option Char :=
  if n = 7457 then some '\ue7c7'
  else if n < gbFourBytes.size then gbFourBytes[n]?
  else if 189000 ≤ n ∧ n ≤ 1237575 then some (Char.ofNat (0x10000 + (n - 189000)))
  else none

/-- The number that four bytes make. Every other byte is a decimal digit. -/
def gbNumber (a b c d : UInt8) : Nat :=
  ((a.toNat - 0x81) * 10 + (b.toNat - 0x30)) * 1260 + (c.toNat - 0x81) * 10 + (d.toNat - 0x30)

/-- Is a byte the first or the third of four? -/
def isGbLead (b : UInt8) : Bool :=
  0x81 ≤ b && b ≤ 0xFE

/-- Is a byte a decimal digit? -/
def isGbDigit (b : UInt8) : Bool :=
  0x30 ≤ b && b ≤ 0x39

/-- The text of bytes. -/
def ofGb18030 : List UInt8 → List Char
  | [] => []
  | a :: rest =>
    if a < 0x80 then Char.ofNat a.toNat :: ofGb18030 rest
    else if a = 0x80 then '€' :: ofGb18030 rest
    else if !isGbLead a then replacement :: ofGb18030 rest
    else
      match rest with
      | [] => [replacement]
      | b :: after =>
        if isGbDigit b then
          match after with
          | [] => [replacement]
          | c :: after =>
            if isGbLead c then
              match after with
              | [] => [replacement]
              | d :: after =>
                if isGbDigit d then
                  (gbNumber? (gbNumber a b c d)).getD replacement :: ofGb18030 after
                else replacement :: ofGb18030 (b :: c :: d :: after)
            else replacement :: ofGb18030 (b :: c :: after)
        else
          match gbPair? a.toNat b.toNat with
          | some char => char :: ofGb18030 after
          | none => replacement :: ofGb18030 (resumeAt b after)
termination_by bytes => bytes.length
decreasing_by
  all_goals simp only [List.length_cons]
  any_goals omega
  have := resumeAt_length b after
  omega

end PaperSearch.Text.Charset
