import PaperSearch.Web.Exchange

/-!
# Replays

A search is a function of what a server answers. Where the server is a real one, the search is run
with the answers that are known; when it asks for one that is not, that request is sent and the
search is run once more, with one answer more.

* `Replay.serve` gives the known answers in order and remembers the first request after them.
-/

namespace PaperSearch.Web

open Time

structure Replay where
  known : List Answer
  /-- What comes of a request when no answer is known. -/
  otherwise : Reaction
  /-- The first request whose answer is not known. -/
  pending : Option Request
  deriving Repr

namespace Replay

/-- A replay of the answers of a server. -/
def ofAnswers (known : List Answer) (otherwise : Reaction) : Replay :=
  ⟨known, otherwise, none⟩

def serve : Server Replay := fun request r =>
  match r.known with
  | answer :: rest => (answer, { r with known := rest })
  | [] => (⟨r.otherwise, .zero⟩, { r with pending := r.pending.or (some request) })

end Replay
end PaperSearch.Web
