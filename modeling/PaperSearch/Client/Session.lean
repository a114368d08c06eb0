import PaperSearch.Client.Cache
import PaperSearch.Client.Limiter
import PaperSearch.Client.Cancellation
import PaperSearch.Client.Trace
import PaperSearch.Search.Error
import PaperSearch.Transport.Outcome

/-!
# Sessions

What a client remembers from search to search, and what has been seen of it. There are two clocks:
the limiter and the caches read one, and the timer measures waits, exchanges and deadlines. They
run together, or the timer skips the time that the client spends waiting for a permit.

* `Search` is the type of what runs in a session.
* `pause` waits, `awaitPermit` waits for a permit; both end early when the token fires.
-/

namespace PaperSearch

open Time

/-- How the two clocks go. -/
inductive Timing where
  /-- Time is one: both clocks show all of it. -/
  | together
  /-- A wait for a permit moves the clock, and the timer only if the token fires in it; every other
  wait moves the timer. -/
  | apart
  deriving DecidableEq, Repr

/-- The state of a client whose server has states `σ`. -/
structure Session (σ : Type) where
  server : σ
  timing : Timing
  /-- The time that limiter and caches see, in nanoseconds. -/
  clock : Nat
  /-- The time that waits and deadlines see, in nanoseconds. -/
  timer : Nat
  limiter : Limiter
  /-- The token of the search that runs. -/
  token : Cancellation
  /-- Each caching interceptor has a cache of its own, known by a number. -/
  caches : Nat → Cache
  trace : List Happening

/-- Something that runs in a session. -/
abbrev Search (σ : Type) (α : Type) := StateM (Session σ) α

/-- What a search gives. -/
abbrev Result (α : Type) := Except SearchError α

namespace Search

variable {σ : Type}

def record (h : Happening) : Search σ Unit :=
  modify fun s => { s with trace := s.trace ++ [h] }

def report (level : Level) (message : String) (fields : List (String × Reported)) :
    Search σ Unit :=
  record (.event ⟨level, message, fields⟩)

def note (line : String) : Search σ Unit :=
  record (.note line)

/-- Breaks off, because a time is too long to be held. What stands around is run on as with an
error. In the program nothing of that search happens any more, and no one can handle it: a search
with this mark in its trace gives nothing, whatever comes after the mark. -/
def breakOff {α : Type} : Search σ (Result α) := do
  record .overflow
  return .error .overflow

/-- Has the token fired? -/
def isCancelled : Search σ Bool := do
  let s ← get
  return s.token.isFired s.timer

/-- Fires the token. -/
def cancel : Search σ Unit :=
  modify fun s => { s with token := s.token.fire }

end Search

namespace Session

variable {σ : Type}

/-- Moves the timer to a time, and the clock as far when the clocks run together. -/
def moveTimer (s : Session σ) (time : Nat) : Session σ :=
  { s with
    timer := time
    clock := match s.timing with
      | .together => s.clock + (time - s.timer)
      | .apart => s.clock }

/-- Waits for some time. False when the token has fired or fires in that time. -/
def pause (s : Session σ) (d : Duration) : Bool × Session σ :=
  if s.token.isFired s.timer then (false, s)
  else
    match s.token.firesIn? (s.timer + d.nanoseconds) with
    | some time => (false, s.moveTimer time)
    | none => (true, s.moveTimer (s.timer + d.nanoseconds))

/-- The time at which the token fires in a wait for a permit. -/
def firesWaiting? (s : Session σ) (wait : Nat) : Option Nat :=
  match s.timing with
  | .together => s.token.firesIn? (s.timer + wait)
  | .apart => s.token.deadline

/-- Waits for a permit and takes it. False when the token has fired or fires in the wait. -/
def awaitPermit (s : Session σ) : Bool × Session σ :=
  if s.token.isFired s.timer then (false, s)
  else
    let ready := s.limiter.readyAt s.clock
    if ready = s.clock then (true, { s with limiter := s.limiter.take ready })
    else
      match s.firesWaiting? (ready - s.clock) with
      | some time => (false, s.moveTimer time)
      | none =>
        let waited := match s.timing with
          | .together => s.timer + (ready - s.clock)
          | .apart => s.timer
        (true, { s with clock := ready, timer := waited, limiter := s.limiter.take ready })

end Session
end PaperSearch
