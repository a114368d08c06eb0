import PaperSearch.Client.Engine
import PaperSearch.Web.Charset
import PaperSearch.Web.Reference

/-!
# Exchanges on the web

A search is sent as one request: its parameters stand in the address, or in the body as those of
a form. When the answer says that the page has moved, the request is sent there, ten times at
most. A failure on the way, a connection that ends too early or a server that says nothing until
the time is over ends the exchange without a response.

* `Request.ofSearch` is the request of a search, `Request.redirected` the one after an answer.
* `Endpoint.exchange` follows a request to its end.
* `Endpoint.transport` is the transport that does so.
-/

namespace PaperSearch.Web

open Time

structure Request where
  method : Method
  address : Address
  /-- The type of the body, if there is one. -/
  contentType : Option String
  body : String
  /-- What the request is signed with. -/
  userAgent : String
  deriving DecidableEq, Repr

/-- The answer of a server. -/
structure Reply where
  status : UInt16
  contentType : Option String
  /-- Where the page is now. -/
  location : Option String
  body : List UInt8
  /-- Has all of the body come? -/
  isComplete : Bool
  deriving DecidableEq, Repr

/-- What comes of a request. -/
inductive Reaction where
  | reply (reply : Reply)
  /-- Nobody takes the request. -/
  | refused
  /-- The connection ends without an answer. -/
  | closed
  /-- No answer comes. -/
  | silence
  deriving DecidableEq, Repr

structure Answer where
  reaction : Reaction
  /-- The time until it comes. -/
  elapsed : Duration
  deriving DecidableEq, Repr

/-- A server whose states are `σ`. -/
abbrev Server (σ : Type) := Request → σ → Answer × σ

/-- The type of responses that are asked for. -/
def acceptedType : String := "application/atom+xml"

/-- The type of a body that holds the parameters of a search. -/
def formType : String := "application/x-www-form-urlencoded"

/-! ## Requests -/

namespace Request

/-- The request of a search with these parameters; none when there is no such address. -/
def ofSearch (base userAgent : String) (method : Method) (encoded : String) : Option Request :=
  match method with
  | .get =>
    let query := if encoded.isEmpty then "" else "?" ++ encoded
    (Address.parse? (base ++ query).toList).map fun address =>
      ⟨.get, address, none, "", userAgent⟩
  | .post =>
    (Address.parse? base.toList).map fun address =>
      ⟨.post, address, some formType, encoded, userAgent⟩

/-- A request for a page, with nothing sent along. -/
def withoutBody (r : Request) : Request :=
  { r with method := .get, contentType := none, body := "" }

/-- Where an answer sends a request. -/
def destination (r : Request) (reply : Reply) : Destination :=
  if [301, 302, 303, 307, 308].contains reply.status then
    match reply.location.bind fun s => Reference.parse? (withoutBlanks s.toList) with
    | some reference => r.address.resolve reference
    | none => .nowhere
  else .nowhere

/-- The request that goes there. Some answers send a request on as it is, some ask for the page
only. -/
def redirected (r : Request) (reply : Reply) (address : Address) : Request :=
  let next := if reply.status = 307 ∨ reply.status = 308 then r else r.withoutBody
  { next with address }

/-- What a request is signed with, as a server reads it: without blanks around it. -/
def signature (r : Request) : String :=
  String.ofList (withoutBlanks r.userAgent.toList)

end Request

/-! ## Exchanges -/

/-- How often a request is sent on. -/
def redirectLimit : Nat := 10

/-- Statuses whose answers have no body. -/
def Reply.hasBody (r : Reply) : Bool :=
  r.status != 101 && r.status != 204 && r.status != 304

/-- Is it an answer? A status has three digits, and a reply with a status below 200 only says that
another one comes, save one that changes the protocol. -/
def Reply.isAnswer (r : Reply) : Bool :=
  r.status == 101 || (200 ≤ r.status && r.status < 1000)

/-- The outcome of the last answer. -/
def Reply.outcome (r : Reply) : Outcome :=
  if !r.hasBody then .ok ⟨r.status, ""⟩
  else if r.isComplete then .ok ⟨r.status, bodyText r.contentType r.body⟩
  else .error (.other "end of file before message length reached")

/-- Where requests go and how. -/
structure Endpoint (σ : Type) where
  base : String
  userAgent : String
  timeout : Duration
  server : Server σ

namespace Endpoint

variable {σ : Type}

/-- The end of a request that is too late. -/
def timedOut (e : Endpoint σ) (s : σ) : Outcome × Duration × σ :=
  (.error (.timeout "operation timed out"), e.timeout, s)

/-- The end of a request that may be sent on so many times more, the time that it takes together
with what has been spent already, and the server after it. -/
def follow (e : Endpoint σ) (left : Nat) (spent : Duration) (request : Request) (s : σ) :
    Outcome × Duration × σ :=
  let (answer, s) := e.server request s
  let spent : Duration := ⟨spent.nanoseconds + answer.elapsed.nanoseconds⟩
  if e.timeout.nanoseconds ≤ spent.nanoseconds then e.timedOut s
  else
    match answer.reaction with
    | .silence => e.timedOut s
    | .refused => (.error (.connect "connection refused"), spent, s)
    | .closed => (.error (.other "connection closed before message completed"), spent, s)
    | .reply reply =>
      if !reply.isAnswer then
        (.error (.other "connection closed before message completed"), spent, s)
      else
        match request.destination reply with
        | .nowhere => (reply.outcome, spent, s)
        | .elsewhere => (.error (.other "URL scheme is not allowed"), spent, s)
        | .address address =>
          match left with
          | 0 => (.error (.other "too many redirects"), spent, s)
          | left + 1 => follow e left spent (request.redirected reply address) s

/-- The end of a search's request. -/
def exchange (e : Endpoint σ) (method : Method) (encoded : String) (s : σ) :
    Outcome × Duration × σ :=
  match Request.ofSearch e.base e.userAgent method encoded with
  | none => (.error (.other "builder error"), .zero, s)
  | some request => e.follow redirectLimit .zero request s

/-- The transport that sends requests there. -/
def transport (e : Endpoint σ) : Transport σ where
  duration method encoded s := (e.exchange method encoded s).2.1
  exchange method encoded s :=
    let (outcome, _, s) := e.exchange method encoded s
    (outcome, s)
  abandon method encoded s := (e.exchange method encoded s).2.2

end Endpoint

end PaperSearch.Web
