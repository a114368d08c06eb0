import PaperSearch.Text.Blank
import PaperSearch.Text.Digits
import PaperSearch.Time.Instant

/-!
# Papers

The record of one paper, as a page of results gives it.

* `Entry.arxivId` is the identifier that all versions of a paper share.
* `Entry.pdfUrl` is the address of the paper itself.
-/

namespace PaperSearch

structure Author where
  name : String
  affiliation : Option String
  deriving DecidableEq, Repr

structure Category where
  term : String
  deriving DecidableEq, Repr

structure Link where
  href : String
  rel : Option String
  mediaType : Option String
  title : Option String
  deriving DecidableEq, Repr

/-- Does a link lead to the paper itself? -/
def Link.isPdf (link : Link) : Bool :=
  link.title == some "pdf" || link.mediaType == some "application/pdf"

structure Entry where
  id : String
  title : String
  summary : String
  published : Option Time.Instant
  updated : Option Time.Instant
  authors : List Author
  categories : List Category
  primaryCategory : Option Category
  links : List Link
  comment : Option String
  journalRef : Option String
  doi : Option String
  deriving DecidableEq, Repr

/-- What follows the first place of a text where the marker stands. -/
def after? (marker : List Char) : List Char → Option (List Char)
  | [] => if marker.isEmpty then some [] else none
  | c :: rest =>
    if marker.isPrefixOf (c :: rest) then some ((c :: rest).drop marker.length)
    else after? marker rest

/-- A text without the version at its end: a `v` and one or more digits. A `v` that follows a
slash begins no version. -/
def stripVersion (s : List Char) : List Char :=
  let reversed := s.reverse
  match reversed.takeWhile Text.isDigit, reversed.dropWhile Text.isDigit with
  | _ :: _, 'v' :: before => if before.head? = some '/' then s else before.reverse
  | _, _ => s

namespace Entry

def default : Entry := ⟨"", "", "", none, none, [], [], none, [], none, none, none⟩

instance : Inhabited Entry := ⟨default⟩

/-- What follows `/abs/` in the entry's address, without its version. -/
def identifier (e : Entry) : List Char :=
  stripVersion ((after? "/abs/".toList e.id.toList).getD e.id.toList)

def arxivId (e : Entry) : String :=
  String.ofList e.identifier

/-- The address of the first link to the paper, or else the one its identifier gives. -/
def pdfUrl (e : Entry) : String :=
  match e.links.find? Link.isPdf with
  | some link => link.href
  | none => "https://arxiv.org/pdf/" ++ e.arxivId

/-- The names of the authors with a semicolon between them. -/
def authorNames (e : Entry) : String :=
  "; ".intercalate (e.authors.map Author.name)

end Entry
end PaperSearch
