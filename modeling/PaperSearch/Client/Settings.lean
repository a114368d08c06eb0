import PaperSearch.Client.Basic
import PaperSearch.Config.Basic
import PaperSearch.Feed.Decoder

/-!
# Making clients

A client is made from settings, which a configuration can give. The interceptors of a
configuration are the one that reports searches and, inside it, a cache.

* `Settings.client` makes the client, `Settings.session` the state it starts with.
* `Config.settings` are the settings that a configuration gives.
-/

namespace PaperSearch

open Time

/-- An interceptor that a client is given. -/
inductive Fitting (σ : Type) where
  | logging
  | hooks (hooks : Hooks)
  | cache (cache : Cache)
  | custom (interceptor : Interceptor σ)

structure Settings (σ : Type) where
  baseUrl : String
  method : Method
  timeout : Duration
  /-- The interval between requests. -/
  rateLimit : Duration
  retry : Option RetryPolicy
  userAgent : Option String
  /-- The first is the outermost. -/
  fittings : List (Fitting σ)

namespace Settings

variable {σ : Type}

def default : Settings σ :=
  { baseUrl := Config.default.baseUrl
    method := .get
    timeout := .ofSeconds 10
    rateLimit := .ofSeconds 3
    retry := none
    userAgent := none
    fittings := [] }

/-- Retries by a policy, once it makes sense. -/
def withRetry (s : Settings σ) (policy : RetryPolicy) : Settings σ :=
  { s with retry := some policy.normalized }

/-- Can a text be sent as the signature of a request? Control characters other than the tab
cannot. -/
def isSendable (userAgent : String) : Bool :=
  userAgent.toList.all fun c => c = '\t' || (32 ≤ c.toNat && c.toNat != 127)

/-- What requests are signed with. -/
def signature (s : Settings σ) : String :=
  s.userAgent.getD defaultUserAgent

/-- The error when nothing can be sent with these settings. -/
def fault? (s : Settings σ) : Option SearchError :=
  if isSendable s.signature then none
  else some (.client "Failed to create HTTP client: builder error")

/-- The interceptors, each cache known by its place. -/
def interceptorsFrom (place : Nat) : List (Fitting σ) → List (Interceptor σ)
  | [] => []
  | .logging :: rest => logging :: interceptorsFrom (place + 1) rest
  | .hooks h :: rest => h.interceptor :: interceptorsFrom (place + 1) rest
  | .cache _ :: rest => caching place :: interceptorsFrom (place + 1) rest
  | .custom i :: rest => i :: interceptorsFrom (place + 1) rest

/-- The cache at a place. -/
def cacheAt (s : Settings σ) (place : Nat) : Cache :=
  match s.fittings[place]? with
  | some (.cache c) => c
  | _ => .empty .zero 1

/-- The client with these settings. -/
def client (s : Settings σ) (transport : Transport σ)
    (decode : Response → Except Feed.Fault Page) (random : Nat → Float) : Client σ where
  engine := { transport, decode, method := s.method, retry := s.retry, random }
  interceptors := interceptorsFrom 0 s.fittings

/-- The state that the client starts with. -/
def session (s : Settings σ) (server : σ) (timing : Timing) : Session σ where
  server := server
  timing := timing
  clock := 0
  timer := 0
  limiter := .ofInterval s.rateLimit
  token := .fresh
  caches := s.cacheAt
  trace := []

end Settings

/-- The settings that a configuration gives. -/
def Config.settings {σ : Type} (c : Config) : Settings σ :=
  { baseUrl := c.baseUrl
    method := c.method
    timeout := .ofMillis c.timeoutMillis.toNat
    rateLimit := .ofMillis c.rateLimitMillis.toNat
    retry := c.retry.map RetrySettings.toPolicy
    userAgent := c.userAgent
    fittings :=
      (if c.logRequests then [.logging] else []) ++
        match c.cacheSeconds with
        | none => []
        | some n =>
          if n = 0 then [] else [.cache (.empty (.ofSeconds n.toNat) Cache.defaultCapacity)] }

/-- The page in the body of a response. -/
def Response.page (r : Response) : Except Feed.Fault Page :=
  Feed.decode r.body

end PaperSearch
