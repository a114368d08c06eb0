import PaperSearch.Json.Record
import PaperSearch.Time.Duration

/-!
# Retry policies

How often a request is made, and how the waits between the attempts grow.

* `RetryPolicy.normalized` replaces settings that make no sense.
* `RetryPolicy.ofJson?` reads a policy with its intervals in milliseconds.
-/

namespace PaperSearch

open Time

structure RetryPolicy where
  /-- The first attempt counts. -/
  maxAttempts : UInt32
  initialInterval : Duration
  maxInterval : Duration
  multiplier : Float
  deriving Repr

namespace RetryPolicy

def default : RetryPolicy := ⟨3, .ofSeconds 1, .ofSeconds 30, 2.0⟩

instance : Inhabited RetryPolicy := ⟨default⟩

/-- A finite multiplier above zero. Below one it makes waits shrink. -/
def isSaneMultiplier (multiplier : Float) : Bool :=
  multiplier.isFinite && 0.0 < multiplier

/-- At least one attempt, intervals that are not zero and do not shrink to the longest, and a
finite positive multiplier. What is missing is taken from the default policy. -/
def normalized (p : RetryPolicy) : RetryPolicy :=
  let initial :=
    if p.initialInterval = .zero then default.initialInterval else p.initialInterval
  let max := if p.maxInterval = .zero then default.maxInterval else p.maxInterval
  { maxAttempts := if p.maxAttempts = 0 then 1 else p.maxAttempts
    initialInterval := initial
    maxInterval := if max.nanoseconds < initial.nanoseconds then initial else max
    multiplier := if isSaneMultiplier p.multiplier then p.multiplier else default.multiplier }

/-! ## JSON -/

/-- Milliseconds of 64 bits. -/
def millis? (j : Json) : Option Duration :=
  j.count?.map fun n => .ofMillis n.toNat

def attempts? (j : Json) : Option UInt32 :=
  (j.natBelow? UInt32.size).map UInt32.ofNat

def fieldNames : List String :=
  ["max_attempts", "initial_interval", "max_interval", "multiplier"]

def ofJson? (j : Json) : Option RetryPolicy := do
  let fields ← j.record? fieldNames fieldNames.length
  let maxAttempts ← Json.required? "max_attempts" attempts? fields
  let initialInterval ← Json.required? "initial_interval" millis? fields
  let maxInterval ← Json.required? "max_interval" millis? fields
  let multiplier ← Json.required? "multiplier" Json.float? fields
  pure ⟨maxAttempts, initialInterval, maxInterval, multiplier⟩

end RetryPolicy
end PaperSearch
