import PaperSearch.Number.Binary
import PaperSearch.Retry.Policy

/-!
# Waits between attempts

The wait after an attempt is the first interval times a power of the multiplier, but not longer
than the longest interval. It is computed in seconds with floating-point numbers and rounded to
nanoseconds. A random part of at most a tenth is added or taken away. There is no wait if either
comes out too long to be held.

* `power` multiplies by repeated squaring, and `waitSeconds` is the wait in seconds, both in any
  arithmetic.
* `RetryPolicy.baseDelay` is the wait without the random part, of any length, and
  `RetryPolicy.backoff?` the wait.
-/

namespace PaperSearch

open Time

/-- The product of `result` and a power, the exponent taken bit by bit from its lowest. -/
def powerFrom {α : Type} [Mul α] (result base : α) (exponent : Nat) : α :=
  let result := if exponent % 2 = 1 then result * base else result
  if exponent / 2 = 0 then result else powerFrom result (base * base) (exponent / 2)
termination_by exponent
decreasing_by omega

/-- A power by repeated squaring. -/
def power {α : Type} [Mul α] [OfNat α 1] (base : α) (exponent : Nat) : α :=
  powerFrom 1 base exponent

/-- The largest exponent that a power is taken to. -/
def maxExponent : Nat := 2147483647

/-- An interval that has grown with every attempt after the first. -/
def grown {α : Type} [Mul α] [OfNat α 1] (initial multiplier : α) (attempt : Nat) : α :=
  initial * power multiplier (min (attempt - 1) maxExponent)

/-- The smaller of a number and a bound; the bound where there is no number. -/
def capped {α : Type} [LT α] [DecidableLT α] (bound x : α) : α :=
  if x < bound then x else bound

/-- The seconds to wait after an attempt: none after no attempt, and none where the interval has
grown to nothing. -/
def waitSeconds {α : Type} [Mul α] [OfNat α 0] [OfNat α 1] [LT α] [DecidableLT α]
    (initial longest multiplier : α) (attempt : Nat) : α :=
  if attempt = 0 then 0
  else
    let seconds := capped longest (grown initial multiplier attempt)
    if 0 < seconds then seconds else 0

/-! ## Seconds as floating-point numbers -/

/-- A duration in seconds. -/
def Time.Duration.toSeconds (d : Duration) : Float :=
  Float.ofNat d.seconds + Float.ofNat d.subsecond / 1000000000.0

/-- A quotient rounded to the nearest number, a half to the even one. -/
def roundDiv (numerator denominator : Nat) : Nat :=
  let quotient := numerator / denominator
  let twice := 2 * (numerator % denominator)
  if twice < denominator then quotient
  else if denominator < twice then quotient + 1
  else quotient + quotient % 2

/-- The nearest duration to a number of seconds that is finite and not negative. -/
def Time.Duration.ofSecondsFloat (seconds : Float) : Duration :=
  let ⟨mantissa, place⟩ := Number.Binary.ofFloat seconds
  if 1075 ≤ place then ⟨mantissa * 1000000000 * Nat.pow 2 (place - 1075)⟩
  else ⟨roundDiv (mantissa * 1000000000) (Nat.pow 2 (1075 - place))⟩

namespace RetryPolicy

/-- The wait after an attempt, without its random part. -/
def baseDelay (p : RetryPolicy) (attempt : Nat) : Duration :=
  let seconds :=
    waitSeconds p.initialInterval.toSeconds p.maxInterval.toSeconds p.multiplier attempt
  if seconds.isFinite then .ofSecondsFloat seconds else .zero

/-- The share of a wait that is random. -/
def jitter : Float := 0.1

/-- The wait after an attempt, given a random number from -1 to 1; no time at all without a
policy. -/
def backoff? (policy : Option RetryPolicy) (attempt : Nat) (random : Float) : Option Duration :=
  match policy with
  | none => some .zero
  | some p => do
    let base := (← (p.baseDelay attempt).held?).toSeconds
    if base == 0.0 then return .zero
    let seconds := base + jitter * base * random
    Duration.held? (.ofSecondsFloat (if 0.0 < seconds then seconds else 0.0))

end RetryPolicy
end PaperSearch
