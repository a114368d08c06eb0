/-!
# Durations

A duration is a number of nanoseconds, of any size. What a program holds is bounded: the whole
seconds of a duration have 64 bits (`Duration.held?`), and those that a clock shows have 63
(`clockEnd`). Beyond that it computes nothing, and breaks off.
-/

namespace PaperSearch.Time

structure Duration where
  nanoseconds : Nat
  deriving DecidableEq, Repr, Inhabited

namespace Duration

def zero : Duration := ⟨0⟩

def ofMillis (n : Nat) : Duration := ⟨n * 1000000⟩

def ofSeconds (n : Nat) : Duration := ⟨n * 1000000000⟩

/-- Whole seconds. -/
def seconds (d : Duration) : Nat := d.nanoseconds / 1000000000

/-- Nanoseconds beyond the whole seconds. -/
def subsecond (d : Duration) : Nat := d.nanoseconds % 1000000000

/-- Whole milliseconds. -/
def millis (d : Duration) : Nat := d.nanoseconds / 1000000

/-- Can it be held? -/
def isHeld (d : Duration) : Bool := d.seconds < 18446744073709551616

/-- The longest one that can be held. -/
def longest : Duration := ⟨18446744073709551615999999999⟩

/-- A computed duration, if it can be held. -/
def held? (d : Duration) : Option Duration :=
  if d.isHeld then some d else none

end Duration

/-- The first time that no clock shows, in nanoseconds from when clocks start. -/
def clockEnd : Nat := 9223372036854775808 * 1000000000

end PaperSearch.Time
