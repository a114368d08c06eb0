import PaperSearch.Xml.Attribute

/-!
# Events of a document

A document is read as a sequence of events: tags, text, character data, and what stands beside the
content (comments, instructions, declarations).

* `Fault.message` says why a document cannot be read on.
-/

namespace PaperSearch.Xml

inductive Event where
  /-- The start tag of an element. -/
  | opening (tag : Tag)
  /-- The end tag of an element. -/
  | closing (name : List Char)
  /-- The tag of an element without content. -/
  | empty (tag : Tag)
  /-- Text as written, references and all. -/
  | text (raw : List Char)
  /-- Text in a section where nothing is markup. -/
  | characters (s : List Char)
  /-- A comment, an instruction or a declaration. -/
  | aside
  deriving DecidableEq, Repr

/-- Why a document cannot be read on. -/
inductive Fault where
  | unknownMarkup
  | unclosedInstruction
  | unclosedComment
  | unclosedDoctype
  | unclosedCharacters
  | unclosedTag
  | mismatchedEnd (expected found : String)
  | unmatchedEnd (found : String)
  | unnamedDoctype
  deriving DecidableEq, Repr

/-- What is said of markup that the end of the input cuts off. -/
def notClosed (what mark : String) : String :=
  "syntax error: " ++ what ++ " not closed: `" ++ mark ++ "` not found before end of input"

def Fault.message : Fault → String
  | unknownMarkup => "syntax error: unknown or missed symbol in markup"
  | unclosedInstruction => notClosed "processing instruction or xml declaration" "?>"
  | unclosedComment => notClosed "comment" "-->"
  | unclosedDoctype => notClosed "DOCTYPE" ">"
  | unclosedCharacters => notClosed "CDATA" "]]>"
  | unclosedTag => notClosed "tag" ">"
  | mismatchedEnd expected found =>
    "ill-formed document: expected `</" ++ expected ++ ">`, but `</" ++ found ++ ">` was found"
  | unmatchedEnd found =>
    "ill-formed document: close tag `</" ++ found ++ ">` does not match any open tag"
  | unnamedDoctype =>
    "ill-formed document: `<!DOCTYPE>` declaration does not contain a name of a document type"

end PaperSearch.Xml
