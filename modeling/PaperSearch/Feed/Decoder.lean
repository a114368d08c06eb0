import PaperSearch.Feed.Fault
import PaperSearch.Paper.Page
import PaperSearch.Xml.Reader

/-!
# Reading a feed

A feed is a document of entries with authors in them. Elements are known by their local names. The
text of an element is what was read since the last tag that opened or closed one, its white space
collapsed; it is used when the element ends, by the innermost of author, entry and feed.

* `State.step` follows one event.
* `decode` reads the page that a document gives.
-/

namespace PaperSearch.Feed

open Xml

/-- What has been read of a feed. -/
structure State where
  page : Page
  /-- The entry that is open. -/
  entry : Option Entry
  /-- The author that is open. -/
  author : Option Author
  /-- The text since the last tag. -/
  text : List Char
  deriving Repr

def State.start : State := ⟨Page.default, none, none, []⟩

/-! ## Values -/

/-- A text, if it is not empty. -/
def nonEmpty? (s : String) : Option String :=
  if s.isEmpty then none else some s

def readCount (s : String) : Except Fault UInt64 :=
  match Text.count? s.toList with
  | some n => .ok n
  | none => .error (.invalidCount s)

/-- The instant of a timestamp; none for an empty text. -/
def readDate (s : String) : Except Fault (Option Time.Instant) :=
  if s.isEmpty then .ok none
  else
    match Time.Rfc3339.parse s.toList with
    | .ok t => .ok (some t)
    | .error fault => .error (.invalidTimestamp s fault)

/-- The value of an attribute of a tag. -/
def readAttribute (tag : Tag) (name : String) : Except Fault (Option String) :=
  match tag.attribute? name.toList with
  | .ok value => .ok (value.map String.ofList)
  | .error fault => .error (.tag fault)

def readLink (tag : Tag) : Except Fault Link := do
  let href ← readAttribute tag "href"
  let rel ← readAttribute tag "rel"
  let mediaType ← readAttribute tag "type"
  let title ← readAttribute tag "title"
  return ⟨href.getD "", rel, mediaType, title⟩

/-! ## Events -/

namespace State

/-- What a tag says by its attributes: links, and the categories of an entry. -/
def readTag (st : State) (tag : Tag) : Except Fault State :=
  if tag.localName = "link".toList then do
    let link ← readLink tag
    match st.entry with
    | some e => return { st with entry := some { e with links := e.links ++ [link] } }
    | none => return { st with page := { st.page with links := st.page.links ++ [link] } }
  else if tag.localName = "category".toList then do
    match st.entry, ← readAttribute tag "term" with
    | some e, some term =>
      return { st with entry := some { e with categories := e.categories ++ [⟨term⟩] } }
    | _, _ => return st
  else if tag.localName = "primary_category".toList then do
    match st.entry, ← readAttribute tag "term" with
    | some e, some term =>
      return { st with entry := some { e with primaryCategory := some ⟨term⟩ } }
    | _, _ => return st
  else .ok st

/-- An element begins, and its text with it. -/
def begin (st : State) (tag : Tag) : Except Fault State :=
  let st := { st with text := [] }
  if tag.localName = "entry".toList then .ok { st with entry := some Entry.default }
  else if tag.localName = "author".toList ∧ st.entry.isSome then
    .ok { st with author := some ⟨"", none⟩ }
  else st.readTag tag

/-- An element of an author ends. -/
def closeInAuthor (st : State) (a : Author) (name : List Char) (value : String) : State :=
  if name = "name".toList then { st with author := some { a with name := value } }
  else if name = "affiliation".toList then
    { st with author := some { a with affiliation := nonEmpty? value } }
  else if name = "author".toList then
    { st with
      author := none
      entry := st.entry.map fun e => { e with authors := e.authors ++ [a] } }
  else st

/-- An entry with the text of one of its elements. -/
def withEntryElement (e : Entry) (name : List Char) (value : String) :
    Except Fault Entry :=
  if name = "id".toList then .ok { e with id := value }
  else if name = "title".toList then .ok { e with title := value }
  else if name = "summary".toList then .ok { e with summary := value }
  else if name = "published".toList then
    (readDate value).map fun t => { e with published := t }
  else if name = "updated".toList then (readDate value).map fun t => { e with updated := t }
  else if name = "comment".toList then .ok { e with comment := nonEmpty? value }
  else if name = "journal_ref".toList then .ok { e with journalRef := nonEmpty? value }
  else if name = "doi".toList then .ok { e with doi := nonEmpty? value }
  else .ok e

/-- An element of an entry ends. -/
def closeInEntry (st : State) (e : Entry) (name : List Char) (value : String) :
    Except Fault State :=
  if name = "entry".toList then
    .ok { st with entry := none, page := { st.page with entries := st.page.entries ++ [e] } }
  else (withEntryElement e name value).map fun e => { st with entry := some e }

/-- A page with the text of one of the elements of its feed. -/
def withPageElement (p : Page) (name : List Char) (value : String) :
    Except Fault Page :=
  if name = "title".toList then .ok { p with title := value }
  else if name = "id".toList then .ok { p with id := value }
  else if name = "updated".toList then .ok { p with updated := value }
  else if name = "totalResults".toList then
    (readCount value).map fun n => { p with total := n }
  else if name = "startIndex".toList then (readCount value).map fun n => { p with start := n }
  else if name = "itemsPerPage".toList then
    (readCount value).map fun n => { p with perPage := n }
  else .ok p

/-- An element ends, and its text with it. -/
def close (st : State) (name : List Char) : Except Fault State :=
  let value := String.ofList (Text.collapse st.text)
  let st := { st with text := [] }
  match st.author, st.entry with
  | some a, _ => .ok (st.closeInAuthor a name value)
  | none, some e => st.closeInEntry e name value
  | none, none => (withPageElement st.page name value).map fun p => { st with page := p }

/-- One event more. -/
def step (st : State) : Event → Except Fault State
  | .opening tag => st.begin tag
  | .empty tag => st.readTag tag
  | .closing name => st.close (localName name)
  | .text raw =>
    match expand raw with
    | .ok s => .ok { st with text := st.text ++ s }
    | .error fault => .error (.text fault)
  | .characters s => .ok { st with text := st.text ++ s }
  | .aside => .ok st

/-- The events of a reading, in order; then the fault that ended it, if any. -/
def follow (st : State) (document : List Char) (r : Reading) : Except Fault State := do
  let st ← r.events.foldlM step st
  match r.failure with
  | some f => .error (.markup (f.position document) f.fault)
  | none => .ok st

end State

/-- The page that a document gives. An entry must not be open at its end. -/
def decode (document : String) : Except Fault Page := do
  let st ← State.start.follow document.toList (read document.toList)
  if st.entry.isSome then .error .unterminatedEntry else .ok st.page

end PaperSearch.Feed
