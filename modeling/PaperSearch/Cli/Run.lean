import PaperSearch.Cli.Program
import PaperSearch.Web.Exchange

/-!
# Runs

A plan is run against a server on the web.

* `Plan.run` searches, with a token to stop the search by.
* `Plan.runInterrupted` stops it after a number of requests.
-/

namespace PaperSearch

open Time

/-- Where requests go with these settings. -/
def Settings.endpoint {σ : Type} (s : Settings σ) (server : Web.Server σ) : Web.Endpoint σ where
  base := s.baseUrl
  userAgent := s.signature
  timeout := s.timeout
  server := server

namespace Plan

variable {σ : Type}

/-- The client that searches. -/
def client (p : Plan σ) (server : Web.Server σ) (random : Nat → Float) : Client σ :=
  p.settings.client (p.settings.endpoint server).transport Response.page random

/-- The entries that are found, and all that has happened. -/
def run (p : Plan σ) (server : Web.Server σ) (random : Nat → Float) (token : Cancellation)
    (start : σ) : Option (Result (List Entry) × Session σ) :=
  p.entries (p.client server random) token (p.settings.session start .together)

/-- A run whose token fires right after the exchange in which a number of requests has been seen,
if it comes to that. It is found in the run that nobody stops, which has to end. -/
def runInterrupted (p : Plan σ) (server : Web.Server σ) (random : Nat → Float)
    (seen : σ → Nat) (requests : Nat) (start : σ) :
    Option (Result (List Entry) × Session σ) := do
  let whole ← p.run server random .fresh start
  let stopped (time : Nat) := p.run server random (.firingAt (time + 1)) start
  let reached (time : Nat) : Bool :=
    (stopped time).any fun run => requests ≤ seen run.2.server
  match (Happening.exchangeTimes whole.2.trace).find? reached with
  | some time => stopped time
  | none => return whole

end Plan
end PaperSearch
