import PaperSearch.Query.Node
import PaperSearch.Search.Sort
import PaperSearch.Text.Digits
import PaperSearch.Text.Percent

/-!
# Parameters of a search

A search asks for the papers that match a query, for papers by identifier, or for both, and for a
window of the results.

* `Params.check` says whether a window is within bounds.
* `Params.pairs` are the named values that are sent, those that say nothing left out.
* `Params.encode` is the text of the request.
-/

namespace PaperSearch

/-- Why parameters are refused. -/
inductive InvalidParams where
  | tooManyResults
  | startTooLarge
  | unknownSortField (name : String)
  | unknownSortOrder (name : String)
  | other (message : String)
  deriving DecidableEq, Repr

/-- The most results that one request may ask for. -/
def maxResultsLimit : UInt64 := 2000

/-- The last place where the window of results may start. -/
def maxStart : UInt64 := 30000

def InvalidParams.message : InvalidParams → String
  | tooManyResults => "max_results cannot exceed 2000"
  | startTooLarge => "start cannot exceed 30000"
  | unknownSortField name => "unknown sort field: " ++ name
  | unknownSortOrder name => "unknown sort order: " ++ name
  | other message => message

/-- The sort field with a name. -/
def SortField.parse (s : String) : Except InvalidParams SortField :=
  match ofName? s with
  | some field => .ok field
  | none => .error (.unknownSortField s)

/-- The sort order with a name. -/
def SortOrder.parse (s : String) : Except InvalidParams SortOrder :=
  match ofName? s with
  | some order => .ok order
  | none => .error (.unknownSortOrder s)

structure Params where
  /-- The wire form of the query; nothing is searched for when it is empty. -/
  query : String
  ids : List String
  /-- How many results to pass over. -/
  start : UInt64
  /-- How many results to give; the server decides when it is zero. -/
  maxResults : UInt64
  sortField : Option SortField
  sortOrder : Option SortOrder
  deriving DecidableEq, Repr

namespace Params

def default : Params := ⟨"", [], 0, 0, none, none⟩

instance : Inhabited Params := ⟨default⟩

def ofQueryText (query : String) : Params := { default with query }

def ofIds (ids : List String) : Params := { default with ids }

def withQuery (p : Params) (q : Query) : Params := { p with query := q.encode }

/-- Parameters within bounds; the number of results is looked at first. -/
def check (p : Params) : Except InvalidParams Unit :=
  if maxResultsLimit < p.maxResults then .error .tooManyResults
  else if maxStart < p.start then .error .startTooLarge
  else .ok ()

/-- The identifiers that are sent: blank ones are dropped, the others trimmed. -/
def sentIds (p : Params) : List (List Char) :=
  (p.ids.map fun id => Text.trim id.toList).filter fun id => !id.isEmpty

/-- A named value, unless it is empty. -/
def pairUnlessEmpty (name : String) (value : List Char) : List (List Char × List Char) :=
  if value.isEmpty then [] else [(name.toList, value)]

/-- A named count, unless it is zero. -/
def pairUnlessZero (name : String) (n : UInt64) : List (List Char × List Char) :=
  if n = 0 then [] else [(name.toList, Text.decimal n.toNat)]

/-- A named value, if there is one. -/
def pairIfSome (name : String) : Option String → List (List Char × List Char)
  | none => []
  | some value => [(name.toList, value.toList)]

/-- The named values of the request, in the order in which they are sent. -/
def pairs (p : Params) : List (List Char × List Char) :=
  pairUnlessEmpty "search_query" p.query.toList ++
    pairUnlessEmpty "id_list" (Text.join [','] p.sentIds) ++
    pairUnlessZero "start" p.start ++
    pairUnlessZero "max_results" p.maxResults ++
    pairIfSome "sortBy" (p.sortField.map SortField.name) ++
    pairIfSome "sortOrder" (p.sortOrder.map SortOrder.name)

/-- The text of the request, in the form alphabet. -/
def encode (p : Params) : String :=
  String.ofList (Text.Percent.formPairs p.pairs)

end Params
end PaperSearch
