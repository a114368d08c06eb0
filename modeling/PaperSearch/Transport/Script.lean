import PaperSearch.Client.Engine

/-!
# A scripted transport

A transport that answers from a queue and, when the queue is empty, always with the same outcome.
An exchange takes its outcome from the queue when it ends.
-/

namespace PaperSearch

open Time

structure Script where
  queue : List Outcome
  /-- The outcome when the queue is empty. -/
  always : Option Outcome
  /-- How long an exchange takes. -/
  delay : Duration

namespace Script

def empty : Script := ⟨[], none, .zero⟩

def push (s : Script) (outcome : Outcome) : Script :=
  { s with queue := s.queue ++ [outcome] }

/-- The next outcome. -/
def take (s : Script) : Outcome × Script :=
  match s.queue with
  | outcome :: rest => (outcome, { s with queue := rest })
  | [] => (s.always.getD (.error (.other "no scripted response")), s)

def transport : Transport Script where
  duration _ _ s := s.delay
  exchange _ _ s := s.take
  abandon _ _ s := s

end Script
end PaperSearch
