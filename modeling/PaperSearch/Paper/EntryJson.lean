import PaperSearch.Json.Record
import PaperSearch.Paper.Entry
import PaperSearch.Time.Rfc3339

/-!
# Papers in JSON

`Entry.ofJson?` reads what `Entry.toJson` writes. Texts that a paper may lack are `null` in an
entry; those of authors and links are left out.
-/

namespace PaperSearch

open Json

namespace Author

def toJson (a : Author) : Json :=
  .obj (("name", .str a.name) :: present "affiliation" a.affiliation)

def ofJson? (j : Json) : Option Author := do
  let fields ← j.record? ["name", "affiliation"] 1
  let name ← required? "name" string? fields
  let affiliation ← optional? "affiliation" string? fields
  pure ⟨name, affiliation⟩

end Author

namespace Category

def toJson (c : Category) : Json :=
  .obj [("term", .str c.term)]

def ofJson? (j : Json) : Option Category := do
  let fields ← j.record? ["term"] 1
  let term ← required? "term" string? fields
  pure ⟨term⟩

end Category

namespace Link

def toJson (l : Link) : Json :=
  .obj (("href", .str l.href) ::
    (present "rel" l.rel ++ present "type" l.mediaType ++ present "title" l.title))

def ofJson? (j : Json) : Option Link := do
  let fields ← j.record? ["href", "rel", "type", "title"] 1
  let href ← required? "href" string? fields
  let rel ← optional? "rel" string? fields
  let mediaType ← optional? "type" string? fields
  let title ← optional? "title" string? fields
  pure ⟨href, rel, mediaType, title⟩

end Link

/-- An instant is written as an Internet timestamp. -/
def Time.Instant.toJson (t : Time.Instant) : Json :=
  .str (String.ofList (Time.Rfc3339.render t))

def Time.Instant.ofJson? (j : Json) : Option Time.Instant :=
  j.string?.bind fun s => Time.Rfc3339.parseLenient? s.toList

namespace Entry

def fieldNames : List String :=
  ["id", "title", "summary", "published", "updated", "authors", "categories",
   "primary_category", "links", "comment", "journal_ref", "doi"]

def toJson (e : Entry) : Json :=
  .obj
    [("id", .str e.id),
     ("title", .str e.title),
     ("summary", .str e.summary),
     ("published", .ofOption Time.Instant.toJson e.published),
     ("updated", .ofOption Time.Instant.toJson e.updated),
     ("authors", .arr (e.authors.map Author.toJson)),
     ("categories", .arr (e.categories.map Category.toJson)),
     ("primary_category", .ofOption Category.toJson e.primaryCategory),
     ("links", .arr (e.links.map Link.toJson)),
     ("comment", .ofOption .str e.comment),
     ("journal_ref", .ofOption .str e.journalRef),
     ("doi", .ofOption .str e.doi)]

def ofJson? (j : Json) : Option Entry := do
  let fields ← j.record? fieldNames fieldNames.length
  let id ← required? "id" string? fields
  let title ← required? "title" string? fields
  let summary ← required? "summary" string? fields
  let published ← optional? "published" Time.Instant.ofJson? fields
  let updated ← optional? "updated" Time.Instant.ofJson? fields
  let authors ← required? "authors" (list? Author.ofJson?) fields
  let categories ← required? "categories" (list? Category.ofJson?) fields
  let primaryCategory ← optional? "primary_category" Category.ofJson? fields
  let links ← required? "links" (list? Link.ofJson?) fields
  let comment ← optional? "comment" string? fields
  let journalRef ← optional? "journal_ref" string? fields
  let doi ← optional? "doi" string? fields
  pure ⟨id, title, summary, published, updated, authors, categories, primaryCategory, links,
    comment, journalRef, doi⟩

end Entry
end PaperSearch
