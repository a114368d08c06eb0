/-!
# Blank space

White space is the Unicode property of that name: 25 characters, ten ranges. Words are the maximal
runs of other characters.

* `words` splits a text at its blanks.
* `collapse` writes the words with one space between them.
* `trim` drops the blanks at both ends.
-/

namespace PaperSearch.Text

/-- Closed ranges of code points with the property White_Space, ascending. -/
def blankRanges : List (Nat × Nat) :=
  [(0x09, 0x0D), (0x20, 0x20), (0x85, 0x85), (0xA0, 0xA0), (0x1680, 0x1680), (0x2000, 0x200A),
   (0x2028, 0x2029), (0x202F, 0x202F), (0x205F, 0x205F), (0x3000, 0x3000)]

/-- Does a code point lie in one of the ranges? -/
def inRanges (ranges : List (Nat × Nat)) (n : Nat) : Bool :=
  ranges.any fun r => r.1 ≤ n && n ≤ r.2

def isBlank (c : Char) : Bool :=
  inRanges blankRanges c.toNat

def trimLeft (s : List Char) : List Char :=
  s.dropWhile isBlank

def trimRight (s : List Char) : List Char :=
  (s.reverse.dropWhile isBlank).reverse

def trim (s : List Char) : List Char :=
  trimRight (trimLeft s)

/-- The words of a text, given the word that is open when it starts, last character first. -/
def wordsFrom (word : List Char) : List Char → List (List Char)
  | [] => if word.isEmpty then [] else [word.reverse]
  | c :: rest =>
    if isBlank c then
      if word.isEmpty then wordsFrom [] rest else word.reverse :: wordsFrom [] rest
    else wordsFrom (c :: word) rest

/-- The maximal runs of characters that are not blank, in order. -/
def words (s : List Char) : List (List Char) :=
  wordsFrom [] s

/-- Pieces joined by a separator. -/
def join (separator : List Char) : List (List Char) → List Char
  | [] => []
  | [piece] => piece
  | piece :: rest => piece ++ separator ++ join separator rest

/-- The words of a text with one space between neighbours. -/
def collapse (s : List Char) : List Char :=
  join [' '] (words s)

end PaperSearch.Text
