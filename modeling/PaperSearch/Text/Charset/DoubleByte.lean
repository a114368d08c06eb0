import PaperSearch.Text.Lossy

/-!
# Character sets of one byte and two

A byte of such a set is a character, or the first of two bytes that are one.

* `DoubleByte.decode` reads bytes.
* `resumeAt` is where reading goes on after two bytes that are no character.
-/

namespace PaperSearch.Text.Charset

structure DoubleByte where
  /-- Is a byte the first of two? -/
  isLead : Nat → Bool
  /-- The character of one byte. -/
  single? : Nat → Option Char
  /-- The text of two bytes. -/
  pair? : Nat → Nat → Option (List Char)

/-- After two bytes that are no character the second one is read again if it is ASCII, so that
no bracket or quote of a document is lost. -/
def resumeAt (second : UInt8) (rest : List UInt8) : List UInt8 :=
  if second < 0x80 then second :: rest else rest

theorem resumeAt_length (second : UInt8) (rest : List UInt8) :
    (resumeAt second rest).length ≤ rest.length + 1 := by
  unfold resumeAt
  split <;> simp

/-- The text of bytes. -/
def DoubleByte.decode (s : DoubleByte) : List UInt8 → List Char
  | [] => []
  | [b] =>
    [if s.isLead b.toNat then replacement else (s.single? b.toNat).getD replacement]
  | b :: c :: rest =>
    if s.isLead b.toNat then
      match s.pair? b.toNat c.toNat with
      | some text => text ++ s.decode rest
      | none => replacement :: s.decode (resumeAt c rest)
    else (s.single? b.toNat).getD replacement :: s.decode (c :: rest)
termination_by bytes => bytes.length
decreasing_by
  all_goals simp only [List.length_cons]
  any_goals omega
  have := resumeAt_length c rest
  omega

/-- The character of a byte that is ASCII. -/
def ascii? (b : Nat) : Option Char :=
  if b < 0x80 then some (Char.ofNat b) else none

end PaperSearch.Text.Charset
