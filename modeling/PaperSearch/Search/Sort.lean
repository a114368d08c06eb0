/-!
# Order of results

What results are sorted by, in which direction, and the HTTP method of the request. Each has a
name of its own in requests and in JSON.
-/

namespace PaperSearch

inductive SortField where
  | relevance
  | lastUpdated
  | submitted
  deriving DecidableEq, Repr

namespace SortField

def name : SortField → String
  | relevance => "relevance"
  | lastUpdated => "lastUpdatedDate"
  | submitted => "submittedDate"

def ofName? (s : String) : Option SortField :=
  if s = relevance.name then some relevance
  else if s = lastUpdated.name then some lastUpdated
  else if s = submitted.name then some submitted
  else none

end SortField

inductive SortOrder where
  | ascending
  | descending
  deriving DecidableEq, Repr

namespace SortOrder

def name : SortOrder → String
  | ascending => "ascending"
  | descending => "descending"

def ofName? (s : String) : Option SortOrder :=
  if s = ascending.name then some ascending
  else if s = descending.name then some descending
  else none

end SortOrder

/-- How a request carries its parameters: in the address or in the body. -/
inductive Method where
  | get
  | post
  deriving DecidableEq, Repr, Inhabited

namespace Method

/-- The method's name in a request. -/
def verb : Method → String
  | get => "GET"
  | post => "POST"

/-- The method's name in JSON. -/
def name : Method → String
  | get => "get"
  | post => "post"

def ofName? (s : String) : Option Method :=
  if s = get.name then some get
  else if s = post.name then some post
  else none

end Method
end PaperSearch
