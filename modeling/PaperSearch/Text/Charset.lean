import PaperSearch.Text.Charset.Big5
import PaperSearch.Text.Charset.EucJp
import PaperSearch.Text.Charset.EucKr
import PaperSearch.Text.Charset.Gb18030
import PaperSearch.Text.Charset.Iso2022Jp
import PaperSearch.Text.Codepage

/-!
# Character sets

The sets that documents of the web are written in, with the names that they go by.

* `Charset.ofLabel?` finds a set by any of its names.
* `Charset.decode` reads bytes. What is malformed becomes U+FFFD.
-/

namespace PaperSearch.Text

inductive Charset where
  | utf8
  | utf16 (bigEndian : Bool)
  | codepage (page : Codepage)
  | doubleByte (set : Charset.DoubleByte)
  | eucJp
  | iso2022Jp
  | gb18030
  /-- Every byte from 128 on is a character of private use. -/
  | userDefined
  /-- A set that is known and, as unsafe, not read. -/
  | refused

namespace Charset

/-- The names of the sets that are no code page. -/
def labels : List (List String × Charset) :=
  [(["unicode-1-1-utf-8", "unicode11utf8", "unicode20utf8", "utf-8", "utf8",
      "x-unicode20utf8"], utf8),
   (["unicodefffe", "utf-16be"], utf16 true),
   (["csunicode", "iso-10646-ucs-2", "ucs-2", "unicode", "unicodefeff", "utf-16",
      "utf-16le"], utf16 false),
   (["chinese", "csgb2312", "csiso58gb231280", "gb2312", "gb_2312", "gb_2312-80", "gbk",
      "iso-ir-58", "x-gbk", "gb18030"], gb18030),
   (["big5", "big5-hkscs", "cn-big5", "csbig5", "x-x-big5"], doubleByte big5),
   (["cseucpkdfmtjapanese", "euc-jp", "x-euc-jp"], eucJp),
   (["csiso2022jp", "iso-2022-jp"], iso2022Jp),
   (["csshiftjis", "ms932", "ms_kanji", "shift-jis", "shift_jis", "sjis", "windows-31j",
      "x-sjis"], doubleByte shiftJis),
   (["cseuckr", "csksc56011987", "euc-kr", "iso-ir-149", "korean", "ks_c_5601-1987",
      "ks_c_5601-1989", "ksc5601", "ksc_5601", "windows-949"], doubleByte eucKr),
   (["csiso2022kr", "hz-gb-2312", "iso-2022-cn", "iso-2022-cn-ext", "iso-2022-kr",
      "replacement"], refused),
   (["x-user-defined"], userDefined)]

/-- A name without blanks around it, in lower case. -/
def plainLabel (label : String) : String :=
  let isBlank : Char → Bool := fun c => c == ' ' || ('\t' ≤ c && c ≤ '\r' && c != '\x0b')
  let inner := ((label.toList.dropWhile isBlank).reverse.dropWhile isBlank).reverse
  String.ofList (inner.map Char.toLower)

/-- The set with a name, in which case and blanks around it do not count. -/
def ofLabel? (label : String) : Option Charset :=
  let label := plainLabel label
  match labels.find? fun (names, _) => names.contains label with
  | some (_, set) => some set
  | none => (Codepage.ofLabel? label).map codepage

/-- The text of bytes. -/
def decode (set : Charset) (bytes : List UInt8) : List Char :=
  match set with
  | utf8 => ofUtf8Lossy bytes
  | utf16 bigEndian => ofUtf16Lossy bigEndian bytes
  | codepage page => page.decode bytes
  | doubleByte set => set.decode bytes
  | eucJp => ofEucJp bytes
  | iso2022Jp => ofIso2022Jp bytes
  | gb18030 => ofGb18030 bytes
  | userDefined =>
    bytes.map fun b =>
      if b < 0x80 then Char.ofNat b.toNat else Char.ofNat (0xF780 + (b.toNat - 0x80))
  | refused => if bytes.isEmpty then [] else [replacement]

end Charset
end PaperSearch.Text
