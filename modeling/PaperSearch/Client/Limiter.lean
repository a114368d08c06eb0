import PaperSearch.Time.Duration

/-!
# Rate limiting

A client with an interval sends one request per interval. The limiter knows when it will permit
the next one; without an interval it permits every request.

* `Limiter.readyAt` is the time of the next permit.
* `Limiter.take` takes a permit.
-/

namespace PaperSearch

open Time

structure Limiter where
  interval : Duration
  /-- The next request is permitted from this time on, in nanoseconds. -/
  next : Nat
  deriving DecidableEq, Repr

namespace Limiter

def ofInterval (interval : Duration) : Limiter := ⟨interval, 0⟩

/-- When a request that is made now is permitted. -/
def readyAt (l : Limiter) (now : Nat) : Nat :=
  if l.interval = .zero then now else max now l.next

/-- The limiter after a permit at some time. -/
def take (l : Limiter) (time : Nat) : Limiter :=
  { l with next := time + l.interval.nanoseconds }

end Limiter
end PaperSearch
