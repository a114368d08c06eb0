import PaperSearch.Json.Record
import PaperSearch.Search.Params

/-!
# Search parameters in JSON

`Params.ofJson?` reads what `Params.toJson` writes. Only the two sort settings may be missing.
-/

namespace PaperSearch

open Json

def SortField.ofJson? (j : Json) : Option SortField :=
  j.variant?.bind SortField.ofName?

def SortOrder.ofJson? (j : Json) : Option SortOrder :=
  j.variant?.bind SortOrder.ofName?

def Method.ofJson? (j : Json) : Option Method :=
  j.variant?.bind Method.ofName?

namespace Params

def fieldNames : List String :=
  ["query", "id_list", "start", "max_results", "sort_by", "sort_order"]

def toJson (p : Params) : Json :=
  .obj
    [("query", .str p.query),
     ("id_list", .arr (p.ids.map .str)),
     ("start", .ofCount p.start),
     ("max_results", .ofCount p.maxResults),
     ("sort_by", .ofOption (fun f => .str f.name) p.sortField),
     ("sort_order", .ofOption (fun o => .str o.name) p.sortOrder)]

def ofJson? (j : Json) : Option Params := do
  let fields ← j.record? fieldNames fieldNames.length
  let query ← required? "query" string? fields
  let ids ← required? "id_list" (list? string?) fields
  let start ← required? "start" count? fields
  let maxResults ← required? "max_results" count? fields
  let sortField ← optional? "sort_by" SortField.ofJson? fields
  let sortOrder ← optional? "sort_order" SortOrder.ofJson? fields
  pure ⟨query, ids, start, maxResults, sortField, sortOrder⟩

end Params
end PaperSearch
