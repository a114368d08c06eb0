/-!
# Outcomes of an exchange

One request either brings a response or fails on the way.

* `Response.isOk` tells the one status that carries a page.
* `isRetryable` says which outcomes may be different next time.
-/

namespace PaperSearch

structure Response where
  status : UInt16
  body : String
  deriving DecidableEq, Repr

/-- Why a request brought no response. -/
inductive TransportError where
  | timeout (message : String)
  | connect (message : String)
  | other (message : String)
  deriving DecidableEq, Repr

namespace TransportError

def message : TransportError → String
  | timeout message => "Request timed out: " ++ message
  | connect message => "Connection failed: " ++ message
  | other message => "Transport error: " ++ message

/-- Did the network fail, and not the request? -/
def isNetwork : TransportError → Bool
  | timeout _ => true
  | connect _ => true
  | other _ => false

end TransportError

/-- What an exchange ends with. -/
abbrev Outcome := Except TransportError Response

def Response.isOk (r : Response) : Bool :=
  r.status == 200

/-- Statuses of a server that may answer later: a time limit, too many requests, and the failures
of the server itself and of what stands before it. -/
def retryableStatuses : List UInt16 :=
  [408, 429, 500, 502, 503, 504]

/-- May a request be made again after this error or this status? -/
def isRetryable (error : Option TransportError) (status : Option UInt16) : Bool :=
  error.any TransportError.isNetwork || status.any retryableStatuses.contains

namespace Outcome

def status? : Outcome → Option UInt16
  | .ok response => some response.status
  | .error _ => none

/-- May the request be made again? -/
def isRetryable : Outcome → Bool
  | .ok response => PaperSearch.isRetryable none (some response.status)
  | .error error => PaperSearch.isRetryable (some error) none

/-- What is said of an outcome that is a failure. -/
def reason : Outcome → String
  | .ok response => "HTTP " ++ toString response.status.toNat
  | .error error => error.message

end Outcome
end PaperSearch
