import PaperSearch.Cli.Arguments
import PaperSearch.Query.Parser
import PaperSearch.Search.Error

/-!
# The search that arguments ask for

* `Arguments.params` gives the parameters, or says why there is nothing to search for.
-/

namespace PaperSearch

/-- Why arguments ask for no search. -/
inductive RequestError where
  /-- Neither a query nor identifiers are given. -/
  | nothingToFind
  | badQuery (query : String) (cause : ParseError)
  | refused (cause : InvalidParams)
  deriving DecidableEq, Repr

/-- What is said of an error, from the outermost to its cause. -/
def RequestError.messages : RequestError → List String
  | nothingToFind => ["either --query or --id-list is required"]
  | badQuery query cause => ["Invalid query: " ++ query, cause.message]
  | refused cause => [(SearchError.invalid cause).message]

namespace Arguments

/-- The query as it is given, if it can be read. -/
def checkedQuery (a : Arguments) : Except RequestError String :=
  match a.query with
  | none => .ok ""
  | some query =>
    match Query.parse query with
    | .ok _ => .ok query
    | .error cause => .error (.badQuery query cause)

/-- The parameters of the search. -/
def params (a : Arguments) : Except RequestError Params :=
  if a.query.isNone && a.ids.isEmpty then .error .nothingToFind
  else
    match a.checkedQuery with
    | .error e => .error e
    | .ok query =>
      let params : Params :=
        { query, ids := a.ids, start := a.start, maxResults := a.maxResults,
          sortField := a.sortField, sortOrder := a.sortOrder }
      match params.check with
      | .ok () => .ok params
      | .error cause => .error (.refused cause)

end Arguments
end PaperSearch
