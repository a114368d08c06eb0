import PaperSearch.Text.Percent

/-!
# Digests

The MD5 digest of a text, in hexadecimal digits: thirty-two of them, whatever the text.

A message is filled up to whole blocks of sixteen words. Each block is worked into four words in
sixty-four rounds, and the four words at the end are the digest.

* `Md5.digest` gives the bytes of a digest, `Md5.hex` the digest of a text in digits.
-/

namespace PaperSearch.Text.Md5

/-- The words that a digest is computed in. -/
structure Words where
  a : UInt32
  b : UInt32
  c : UInt32
  d : UInt32

def Words.start : Words := ⟨0x67452301, 0xefcdab89, 0x98badcfe, 0x10325476⟩

def Words.add (v w : Words) : Words :=
  ⟨v.a + w.a, v.b + w.b, v.c + w.c, v.d + w.d⟩

/-- What the rounds add, one number for each: the first bits of the sines of 1, 2, 3 and so on. -/
def sines : List UInt32 :=
  [0xd76aa478, 0xe8c7b756, 0x242070db, 0xc1bdceee,
   0xf57c0faf, 0x4787c62a, 0xa8304613, 0xfd469501,
   0x698098d8, 0x8b44f7af, 0xffff5bb1, 0x895cd7be,
   0x6b901122, 0xfd987193, 0xa679438e, 0x49b40821,
   0xf61e2562, 0xc040b340, 0x265e5a51, 0xe9b6c7aa,
   0xd62f105d, 0x02441453, 0xd8a1e681, 0xe7d3fbc8,
   0x21e1cde6, 0xc33707d6, 0xf4d50d87, 0x455a14ed,
   0xa9e3e905, 0xfcefa3f8, 0x676f02d9, 0x8d2a4c8a,
   0xfffa3942, 0x8771f681, 0x6d9d6122, 0xfde5380c,
   0xa4beea44, 0x4bdecfa9, 0xf6bb4b60, 0xbebfbc70,
   0x289b7ec6, 0xeaa127fa, 0xd4ef3085, 0x04881d05,
   0xd9d4d039, 0xe6db99e5, 0x1fa27cf8, 0xc4ac5665,
   0xf4292244, 0x432aff97, 0xab9423a7, 0xfc93a039,
   0x655b59c3, 0x8f0ccc92, 0xffeff47d, 0x85845dd1,
   0x6fa87e4f, 0xfe2ce6e0, 0xa3014314, 0x4e0811a1,
   0xf7537e82, 0xbd3af235, 0x2ad7d2bb, 0xeb86d391]

/-- How far the rounds turn a word. Each four rounds of the sixteen in a row turn it alike. -/
def turns : List (List UInt32) :=
  [[7, 12, 17, 22], [5, 9, 14, 20], [4, 11, 16, 23], [6, 10, 15, 21]]

def rotateLeft (x n : UInt32) : UInt32 :=
  x <<< n ||| x >>> (32 - n)

/-- What a round makes of three words, and the place of the word of the block that it takes. -/
def mixed (round : Nat) (w : Words) : UInt32 × Nat :=
  match round / 16 with
  | 0 => ((w.b &&& w.c) ||| (~~~w.b &&& w.d), round)
  | 1 => ((w.d &&& w.b) ||| (~~~w.d &&& w.c), (5 * round + 1) % 16)
  | 2 => (w.b ^^^ w.c ^^^ w.d, (3 * round + 5) % 16)
  | _ => (w.c ^^^ (w.b ||| ~~~w.d), 7 * round % 16)

/-- One round over a block. -/
def step (block : List UInt32) (w : Words) (numbered : UInt32 × Nat) : Words :=
  let (sine, round) := numbered
  let (mix, place) := mixed round w
  let turn := (turns.getD (round / 16) []).getD (round % 4) 0
  let sum := w.a + mix + sine + block.getD place 0
  ⟨w.d, w.b + rotateLeft sum turn, w.b, w.c⟩

/-- Works a block into the words. -/
def compress (w : Words) (block : List UInt32) : Words :=
  w.add (sines.zipIdx.foldl (step block) w)

/-- A number in so many bytes, the lowest first. -/
def bytesOf : Nat → Nat → List UInt8
  | 0, _ => []
  | count + 1, n => UInt8.ofNat (n % 256) :: bytesOf count (n / 256)

/-- A message filled up to whole blocks: a bit that is set, zeros, and the length in bits. -/
def filled (message : List UInt8) : List UInt8 :=
  message ++ 0x80 :: List.replicate ((119 - message.length % 64) % 64) 0 ++
    bytesOf 8 (8 * message.length)

/-- Four bytes to a word, the lowest first. -/
def wordsOf : List UInt8 → List UInt32
  | a :: b :: c :: d :: rest =>
    (a.toUInt32 ||| b.toUInt32 <<< 8 ||| c.toUInt32 <<< 16 ||| d.toUInt32 <<< 24) :: wordsOf rest
  | _ => []

/-- The digest of a message, in sixteen bytes. -/
def digest (message : List UInt8) : List UInt8 :=
  let words := wordsOf (filled message)
  let block (i : Nat) : List UInt32 := (words.drop (16 * i)).take 16
  let w := ((List.range (words.length / 16)).map block).foldl compress .start
  [w.a, w.b, w.c, w.d].flatMap fun word => bytesOf 4 word.toNat

/-- The digest of a text, in lower-case hexadecimal digits. -/
def hex (s : List Char) : List Char :=
  (digest (utf8 s)).flatMap fun byte =>
    [Nat.digitChar (byte.toNat / 16), Nat.digitChar (byte.toNat % 16)]

theorem length_bytesOf (count n : Nat) : (bytesOf count n).length = count := by
  induction count generalizing n with
  | zero => rfl
  | succ count ih => exact congrArg (· + 1) (ih (n / 256))

theorem length_digest (message : List UInt8) : (digest message).length = 16 := by
  unfold digest
  simp only [List.flatMap_cons, List.flatMap_nil, List.length_append, length_bytesOf,
    List.length_nil]

/-- A digest has as many digits whatever the text. -/
theorem length_hex (s : List Char) : (hex s).length = 32 := by
  have hdigits : ∀ bytes : List UInt8, (bytes.flatMap fun byte =>
      [Nat.digitChar (byte.toNat / 16), Nat.digitChar (byte.toNat % 16)]).length =
        2 * bytes.length := by
    intro bytes
    induction bytes with
    | nil => rfl
    | cons byte bytes ih =>
      rw [List.flatMap_cons, List.length_append, ih]
      show 2 + 2 * bytes.length = 2 * (bytes.length + 1)
      omega
  unfold hex
  rw [hdigits, length_digest]

example : hex "abc".toList = "900150983cd24fb0d6963f7d28e17f72".toList := by decide +kernel

end PaperSearch.Text.Md5
