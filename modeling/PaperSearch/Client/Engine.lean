import PaperSearch.Client.Session
import PaperSearch.Retry.Delay

/-!
# The engine

One search is one or more exchanges with the server. A failure that may pass is tried again, after
a wait, as often as the policy says. The token is looked at before each exchange and ends every
wait. A search breaks off when it should wait for a time that cannot be held.

How long a wait is stands in no report: its random part cannot be foreseen.

* `Engine.rawSearch` gives the response of a search.
* `Engine.execute` gives the page in it.
-/

namespace PaperSearch

open Time

/-- What requests are sent through. -/
structure Transport (σ : Type) where
  /-- How long the exchange of a request takes. -/
  duration : Method → String → σ → Duration
  /-- What the exchange ends with, and the server after it. -/
  exchange : Method → String → σ → Outcome × σ
  /-- The server after an exchange that the client does not wait for. -/
  abandon : Method → String → σ → σ

structure Engine (σ : Type) where
  transport : Transport σ
  decode : Response → Except Feed.Fault Page
  method : Method
  retry : Option RetryPolicy
  /-- The random number, from -1 to 1, for the wait after each attempt. -/
  random : Nat → Float

namespace Engine

variable {σ : Type}

/-- How many exchanges a search may take. -/
def maxAttempts (e : Engine σ) : UInt32 :=
  match e.retry with
  | none => 1
  | some p => max p.maxAttempts 1

/-- Sends a request. Nothing comes back when the token fires before the exchange ends. -/
def exchange (e : Engine σ) (encoded : String) : Search σ (Option Outcome) := do
  if ← Search.isCancelled then return none
  Search.record (.exchange (← get).timer e.method encoded)
  let s ← get
  let (ended, s) := s.pause (e.transport.duration e.method encoded s.server)
  if ended then
    let (outcome, server) := e.transport.exchange e.method encoded s.server
    set { s with server }
    return some outcome
  else
    set { s with server := e.transport.abandon e.method encoded s.server }
    return none

/-- One attempt: a permit, then an exchange. -/
def attempt (e : Engine σ) (encoded : String) (number : UInt32) : Search σ (Option Outcome) := do
  let (permitted, s) := (← get).awaitPermit
  set s
  if permitted then
    Search.report .debug "Sending search request"
      [("attempt", .number number.toNat), ("max_attempts", .number e.maxAttempts.toNat),
       ("method", .text e.method.verb)]
    e.exchange encoded
  else return none

/-- The error that an outcome stands for when it is not tried again. -/
def failure (outcome : Outcome) (number : UInt32) : SearchError :=
  if outcome.isRetryable then .transient outcome.status? outcome.reason number
  else .terminal outcome.status? outcome.reason

/-- The response that ends a search well. -/
def success? : Outcome → Option Response
  | .ok response => if response.isOk then some response else none
  | .error _ => none

/-- Says why a search ends without success. -/
def giveUp (outcome : Outcome) (number : UInt32) : Search σ (Result Response) := do
  if outcome.isRetryable then
    Search.report .warn ("Giving up after retries: " ++ outcome.reason)
      [("attempts", .number number.toNat)]
  return .error (failure outcome number)

/-- How long to wait after the attempt with this number, if such a time can be held. -/
def wait? (e : Engine σ) (number : Nat) : Option Duration :=
  RetryPolicy.backoff? e.retry number (e.random number)

/-- A count below another one does not overflow when it goes up. -/
theorem toNat_add_one {number limit : UInt32} (h : number < limit) :
    (number + 1).toNat = number.toNat + 1 := by
  have hlt := UInt32.lt_iff_toNat_lt.mp h
  have hsize := limit.toNat_lt
  rw [UInt32.toNat_add, UInt32.toNat_one]
  exact Nat.mod_eq_of_lt (by omega)

/-- Attempts from the one with this number on, until one succeeds or fails for good. -/
def attempts (e : Engine σ) (encoded : String) (number : UInt32) : Search σ (Result Response) := do
  match ← e.attempt encoded number with
  | none => return .error .cancelled
  | some outcome =>
    match success? outcome with
    | some response =>
      if 1 < number then
        Search.report .info "Search succeeded after retries" [("attempt", .number number.toNat)]
      return .ok response
    | none =>
      if _h : number < e.maxAttempts ∧ outcome.isRetryable then
        match e.wait? number.toNat with
        | none => Search.breakOff
        | some wait =>
          Search.report .debug ("Retryable failure: " ++ outcome.reason)
            [("attempt", .number number.toNat)]
          let (waited, s) := (← get).pause wait
          set s
          if waited then attempts e encoded (number + 1) else return .error .cancelled
      else giveUp outcome number
termination_by e.maxAttempts.toNat - number.toNat
decreasing_by
  have hlt := UInt32.lt_iff_toNat_lt.mp _h.1
  rw [toNat_add_one _h.1]
  omega

/-- The response of a search with these parameters. -/
def rawSearch (e : Engine σ) (params : Params) : Search σ (Result Response) :=
  match params.check with
  | .error cause => return .error (.invalid cause)
  | .ok () => e.attempts params.encode 1

/-- The page of a search with these parameters. -/
def execute (e : Engine σ) (params : Params) : Search σ (Result Page) := do
  match ← e.rawSearch params with
  | .error error => return .error error
  | .ok response =>
    match e.decode response with
    | .error fault => return .error (.decode fault)
    | .ok page => return .ok { page with params }

end Engine
end PaperSearch
