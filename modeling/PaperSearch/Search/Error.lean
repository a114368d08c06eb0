import PaperSearch.Feed.Fault
import PaperSearch.Query.ParseError
import PaperSearch.Search.Params

/-!
# Errors of a search

Why a search gives no page. `SearchError.message` is what is said of it.
-/

namespace PaperSearch

/-- In which direction there are no pages. -/
inductive Exhausted where
  | next
  | previous
  deriving DecidableEq, Repr

def Exhausted.message : Exhausted → String
  | next => "no more results"
  | previous => "no previous results"

inductive SearchError where
  /-- The parameters are refused before anything is sent. -/
  | invalid (cause : InvalidParams)
  | parse (cause : ParseError)
  /-- The exchange failed, in a way that may pass, each time it was tried. -/
  | transient (status : Option UInt16) (reason : String) (attempts : UInt32)
  /-- The exchange failed in a way that will not pass. -/
  | terminal (status : Option UInt16) (reason : String)
  /-- The response holds no page. -/
  | decode (fault : Feed.Fault)
  | interceptor (message : String)
  | exhausted (direction : Exhausted)
  | cancelled
  /-- There is no client to search with. -/
  | client (message : String)
  /-- A time came out too long to be held. The program breaks off there: whoever waits for this
  search gets nothing at all, but the client is still there for other searches. -/
  | overflow
  deriving DecidableEq, Repr

namespace SearchError

def message : SearchError → String
  | invalid cause => "Invalid search parameters: " ++ cause.message
  | parse cause => cause.message
  | transient _ reason attempts =>
    "Transient transport failure after " ++ toString attempts.toNat ++ " attempt(s): " ++ reason
  | terminal _ reason => "Transport failure: " ++ reason
  | decode fault => "Failed to decode response: " ++ fault.message
  | interceptor message => "Interceptor error: " ++ message
  | exhausted direction => direction.message
  | cancelled => "Search cancelled"
  | client message => "Client error: " ++ message
  | overflow => "overflow"

/-- The status of the response that failed, if there was one. -/
def status? : SearchError → Option UInt16
  | transient status _ _ => status
  | terminal status _ => status
  | _ => none

def isTransient : SearchError → Bool
  | transient _ _ _ => true
  | _ => false

end SearchError
end PaperSearch
