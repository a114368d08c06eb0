import PaperSearch.Web.Exchange

/-!
# A scripted server

A server that answers its requests one after the other from a list, with the last answer again and
again, and remembers what it was asked.
-/

namespace PaperSearch.Web

structure Script where
  reactions : List Reaction
  /-- The requests that have been seen. -/
  requests : List Request

namespace Script

/-- What comes of the next request. -/
def next (s : Script) : Reaction :=
  s.reactions.head?.getD .closed

/-- Takes a request, and answers at once. A request that nobody takes is not seen, and nobody takes
one on an encrypted connection. -/
def serve : Server Script := fun request s =>
  if request.address.secure then (⟨.refused, .zero⟩, s)
  else
    match s.reactions with
    | .refused :: _ => (⟨.refused, .zero⟩, s)
    | _ :: rest =>
      (⟨s.next, .zero⟩,
        { reactions := if rest.isEmpty then s.reactions else rest
          requests := s.requests ++ [request] })
    | [] => (⟨s.next, .zero⟩, { s with requests := s.requests ++ [request] })

end Script

end PaperSearch.Web
