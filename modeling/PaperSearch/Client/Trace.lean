import PaperSearch.Search.Sort

/-!
# Traces

What a client does that can be seen from outside, besides the results it gives: the requests it
sends, the events it reports and what its interceptors write down.
-/

namespace PaperSearch

inductive Level where
  | debug
  | info
  | warn
  | error
  deriving DecidableEq, Repr

def Level.name : Level → String
  | debug => "DEBUG"
  | info => "INFO"
  | warn => "WARN"
  | error => "ERROR"

/-- The value of a field of an event. -/
inductive Reported where
  | number (n : Nat)
  | text (s : String)
  deriving DecidableEq, Repr

/-- Something that a client reports. -/
structure LogEvent where
  level : Level
  message : String
  fields : List (String × Reported)
  deriving DecidableEq, Repr

inductive Happening where
  /-- A request is sent at a time of the timer. -/
  | exchange (time : Nat) (method : Method) (encoded : String)
  | event (e : LogEvent)
  /-- An interceptor writes a line. -/
  | note (line : String)
  /-- A search breaks off. -/
  | overflow
  deriving DecidableEq, Repr

namespace Happening

/-- The requests of a trace, in order. -/
def exchanges (trace : List Happening) : List (Method × String) :=
  trace.filterMap fun
    | exchange _ method encoded => some (method, encoded)
    | _ => none

/-- The times of the requests of a trace, in order. -/
def exchangeTimes (trace : List Happening) : List Nat :=
  trace.filterMap fun
    | exchange time _ _ => some time
    | _ => none

def events (trace : List Happening) : List LogEvent :=
  trace.filterMap fun
    | event e => some e
    | _ => none

def notes (trace : List Happening) : List String :=
  trace.filterMap fun
    | note line => some line
    | _ => none

end Happening
end PaperSearch
