import PaperSearch.Client.Engine

/-!
# Interceptors

An interceptor stands between a search and the engine. It is given the parameters and the rest of
the way, and may change the one, go the other once, more often or not at all, and change what comes
back.

* `Next.through` is the way through a list of interceptors to the engine.
* `logging` reports what passes, `Hooks.interceptor` calls functions on it, `caching` answers from
  a cache.
-/

namespace PaperSearch

variable {σ : Type}

/-- The rest of the way to the engine. -/
structure Next (σ : Type) where
  /-- How many interceptors stand on it. -/
  remaining : Nat
  run : Params → Search σ (Result Page)

abbrev Interceptor (σ : Type) := Params → Next σ → Search σ (Result Page)

namespace Next

/-- The way through some interceptors, the first of them first. -/
def through (engine : Engine σ) : List (Interceptor σ) → Next σ
  | [] => ⟨0, engine.execute⟩
  | i :: rest => ⟨rest.length + 1, fun params => i params (through engine rest)⟩

def shown (next : Next σ) : String :=
  "Next \x7b remaining: " ++ toString next.remaining ++ ", .. \x7d"

end Next

/-! ## Logging -/

/-- Reports that a search starts, and how it ends. How long it took stands in no report: it depends on
more than the search. -/
def logging : Interceptor σ := fun params next => do
  let about := [("query", .text params.query), ("start", .number params.start.toNat)]
  Search.report .debug "Search started"
    (about ++ [("max_results", .number params.maxResults.toNat)])
  let result ← next.run params
  match result with
  | .ok page =>
    Search.report .info "Search completed"
      (about ++ [("entries", .number page.size), ("total_results", .number page.total.toNat)])
  | .error e => Search.report .warn ("Search failed: " ++ e.message) about
  return result

/-! ## Hooks -/

/-- What is written down when a search passes, and when its result comes back. The second hook is
told how long that took as well; this is left out, as it is in reports. -/
structure Hooks where
  onRequest : Option (Params → String)
  onResponse : Option (Params → Result Page → String)

namespace Hooks

/-- Calls the hooks that there are, with the parameters as they came in. -/
def interceptor (hooks : Hooks) : Interceptor σ := fun params next => do
  match hooks.onRequest with
  | some hook => Search.note (hook params)
  | none => pure ()
  let result ← next.run params
  match hooks.onResponse with
  | some hook => Search.note (hook params result)
  | none => pure ()
  return result

def shown (hooks : Hooks) : String :=
  "HooksInterceptor \x7b on_request: " ++ toString hooks.onRequest.isSome ++ ", on_response: " ++
    toString hooks.onResponse.isSome ++ " \x7d"

end Hooks

/-! ## Caching -/

/-- Looks a page up in a cache. -/
def lookupPage (cache : Nat) (key : String) : Search σ (Option Page) := do
  let s ← get
  let (found, c) := (s.caches cache).lookup key s.clock
  set { s with caches := fun i => if i = cache then c else s.caches i }
  return found

/-- Keeps a page in a cache, if it can be kept there. -/
def storePage (cache : Nat) (key : String) (page : Page) : Search σ Bool := do
  let s ← get
  let (kept, c) := (s.caches cache).keep key page s.clock
  set { s with caches := fun i => if i = cache then c else s.caches i }
  return kept

/-- Answers from a cache when it can, and keeps every page that comes back. A search breaks off if
its page cannot be kept. -/
def caching (cache : Nat) : Interceptor σ := fun params next => do
  let key := params.cacheKey
  match ← lookupPage cache key with
  | some page =>
    Search.report .debug ("Cache hit for query: " ++ params.query) []
    return .ok page
  | none =>
    match ← next.run params with
    | .error e => return .error e
    | .ok page => if ← storePage cache key page then return .ok page else Search.breakOff

end PaperSearch
