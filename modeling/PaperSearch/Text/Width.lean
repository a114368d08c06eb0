import PaperSearch.Text.Extending
import PaperSearch.Text.Wide

/-!
# Width of a text

How many columns a text takes where every character is set in columns of equal width: two for a
wide character, none for one that is drawn on the character before it or not at all.
-/

namespace PaperSearch.Text

/-- Closed ranges of code points that are not drawn, or join the syllable before them. -/
def unseenRanges : List (Nat × Nat) :=
  [(0xAD, 0xAD), (0x34F, 0x34F), (0x61C, 0x61C), (0x1160, 0x11FF), (0x17B4, 0x17B5),
   (0x180B, 0x180F), (0x200B, 0x200F), (0x202A, 0x202E), (0x2060, 0x206F), (0x3164, 0x3164),
   (0xD7B0, 0xD7C6), (0xD7CB, 0xD7FB), (0xFE00, 0xFE0F), (0xFEFF, 0xFEFF), (0xFFA0, 0xFFA0),
   (0xFFF0, 0xFFF8), (0x1BCA0, 0x1BCA3), (0x1D173, 0x1D17A), (0xE0000, 0xE0FFF)]

/-- The columns that a character takes. -/
def charWidth (c : Char) : Nat :=
  if c.toNat < 0x300 then if c.toNat = 0xAD then 0 else 1
  else if inRanges unseenRanges c.toNat || isExtending c then 0
  else if isWide c then 2
  else 1

/-- The columns that a text takes. -/
def width (s : List Char) : Nat :=
  s.foldl (fun n c => n + charWidth c) 0

end PaperSearch.Text
