/-!
# Cancellation

A token tells a search to stop. It is fired by hand, or by the time it gives itself.
-/

namespace PaperSearch

structure Cancellation where
  fired : Bool
  /-- When the token fires by itself, in nanoseconds. -/
  deadline : Option Nat
  deriving DecidableEq, Repr

namespace Cancellation

/-- A token that only fires by hand. -/
def fresh : Cancellation := ⟨false, none⟩

/-- A token that fires at some time. -/
def firingAt (time : Nat) : Cancellation := ⟨false, some time⟩

def fire (t : Cancellation) : Cancellation := { t with fired := true }

/-- Has the token fired by now? -/
def isFired (t : Cancellation) (now : Nat) : Bool :=
  t.fired || t.deadline.any fun d => d ≤ now

/-- The time in a wait until `stop` at which the token fires. -/
def firesIn? (t : Cancellation) (stop : Nat) : Option Nat :=
  t.deadline.filter fun d => d < stop

end Cancellation
end PaperSearch
