import PaperSearch.Retry.Policy
import PaperSearch.Search.ParamsJson

/-!
# Configuration

What a client can be told before it searches. Every setting has a default.

* `Config.ofJson?` reads a configuration.
* `RetrySettings.toPolicy` is the policy that is used.
-/

namespace PaperSearch

open Time

structure RetrySettings where
  maxAttempts : UInt32
  initialMillis : UInt64
  maxMillis : UInt64
  multiplier : Float
  deriving Repr

namespace RetrySettings

def default : RetrySettings := ⟨3, 1000, 30000, 2.0⟩

/-- The policy with these settings, settings that make no sense replaced. -/
def toPolicy (r : RetrySettings) : RetryPolicy :=
  RetryPolicy.normalized
    { maxAttempts := r.maxAttempts
      initialInterval := .ofMillis r.initialMillis.toNat
      maxInterval := .ofMillis r.maxMillis.toNat
      multiplier := r.multiplier }

def fieldNames : List String :=
  ["max_attempts", "initial_interval_ms", "max_interval_ms", "multiplier"]

def ofJson? (j : Json) : Option RetrySettings := do
  let fields ← j.record? fieldNames 0
  let maxAttempts ←
    Json.defaulted? "max_attempts" RetryPolicy.attempts? default.maxAttempts fields
  let initialMillis ←
    Json.defaulted? "initial_interval_ms" Json.count? default.initialMillis fields
  let maxMillis ← Json.defaulted? "max_interval_ms" Json.count? default.maxMillis fields
  let multiplier ← Json.defaulted? "multiplier" Json.float? default.multiplier fields
  pure ⟨maxAttempts, initialMillis, maxMillis, multiplier⟩

end RetrySettings

structure Config where
  /-- The address that requests are sent to. -/
  baseUrl : String
  method : Method
  timeoutMillis : UInt64
  rateLimitMillis : UInt64
  retry : Option RetrySettings
  userAgent : Option String
  /-- How long pages are kept; none are when it is zero. -/
  cacheSeconds : Option UInt64
  logRequests : Bool
  deriving Repr

/-- The version of this program. -/
def version : String := "0.1.0"

/-- What requests are signed with by default. -/
def defaultUserAgent : String := "arxiv-search/" ++ version

namespace Config

def default : Config :=
  { baseUrl := "http://export.arxiv.org/api/query"
    method := .get
    timeoutMillis := 10000
    rateLimitMillis := 3000
    retry := none
    userAgent := none
    cacheSeconds := none
    logRequests := false }

def fieldNames : List String :=
  ["base_url", "method", "timeout_ms", "rate_limit_ms", "retry", "user_agent",
   "cache_ttl_secs", "log_requests"]

def ofJson? (j : Json) : Option Config := do
  let fields ← j.record? fieldNames 0
  let baseUrl ← Json.defaulted? "base_url" Json.string? default.baseUrl fields
  let method ← Json.defaulted? "method" Method.ofJson? default.method fields
  let timeoutMillis ← Json.defaulted? "timeout_ms" Json.count? default.timeoutMillis fields
  let rateLimitMillis ←
    Json.defaulted? "rate_limit_ms" Json.count? default.rateLimitMillis fields
  let retry ← Json.optional? "retry" RetrySettings.ofJson? fields
  let userAgent ← Json.optional? "user_agent" Json.string? fields
  let cacheSeconds ← Json.optional? "cache_ttl_secs" Json.count? fields
  let logRequests ← Json.defaulted? "log_requests" Json.bool? default.logRequests fields
  pure ⟨baseUrl, method, timeoutMillis, rateLimitMillis, retry, userAgent, cacheSeconds,
    logRequests⟩

end Config
end PaperSearch
