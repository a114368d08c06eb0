import PaperSearch.Paper.EntryJson
import PaperSearch.Paper.Page
import PaperSearch.Search.ParamsJson

/-!
# Pages in JSON

`Page.ofJson?` reads what `Page.toJson` writes. Only the parameters may be missing.
-/

namespace PaperSearch.Page

open Json

def fieldNames : List String :=
  ["entries", "start_index", "items_per_page", "total_results", "title", "id", "updated",
   "links", "params"]

/-- The fields that a feed gives. -/
def feedFields (p : Page) : List (String × Json) :=
  [("entries", .arr (p.entries.map Entry.toJson)),
   ("start_index", .ofCount p.start),
   ("items_per_page", .ofCount p.perPage),
   ("total_results", .ofCount p.total),
   ("title", .str p.title),
   ("id", .str p.id),
   ("updated", .str p.updated),
   ("links", .arr (p.links.map Link.toJson))]

def toJson (p : Page) : Json :=
  .obj (p.feedFields ++ [("params", p.params.toJson)])

def ofJson? (j : Json) : Option Page := do
  let fields ← j.record? fieldNames (fieldNames.length - 1)
  let entries ← required? "entries" (list? Entry.ofJson?) fields
  let start ← required? "start_index" count? fields
  let perPage ← required? "items_per_page" count? fields
  let total ← required? "total_results" count? fields
  let title ← required? "title" string? fields
  let id ← required? "id" string? fields
  let updated ← required? "updated" string? fields
  let links ← required? "links" (list? Link.ofJson?) fields
  let params ← defaulted? "params" Params.ofJson? Params.default fields
  pure ⟨entries, start, perPage, total, title, id, updated, links, params⟩

end PaperSearch.Page
