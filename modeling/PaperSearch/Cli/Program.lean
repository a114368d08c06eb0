import PaperSearch.Cli.Request
import PaperSearch.Client.Iter
import PaperSearch.Client.Settings
import PaperSearch.Config.Load

/-!
# The program

A run of the program reads its arguments, loads the configuration, checks what it is to search
for, makes a client, searches and prints the entries. The first of these that fails ends the run.

* `Plan.make` does all that comes before the search.
* `Plan.entries` searches.
* `Plan.ending` is what is printed in the end.
-/

namespace PaperSearch

/-! ## Endings -/

/-- Why a run fails. -/
inductive RunError where
  | configuration
  | request (cause : RequestError)
  | search (cause : SearchError)
  deriving Repr

/-- What is said of an error, from the outermost to its cause. -/
def RunError.messages : RunError → List String
  | configuration => ["Failed to load configuration"]
  | request cause => cause.messages
  | search cause => [cause.message]

/-- What a run ends with: its status, and what it has printed as output and as errors. -/
structure Ending where
  status : Nat
  output : String
  errors : String
  deriving DecidableEq, Repr

namespace Ending

def programName : String := "arxiv-search"

def helpLines : List String :=
  ["Search arXiv with the boolean query language",
   "",
   "Usage: arxiv-search [OPTIONS]",
   "",
   "Options:",
   "  -v, --verbose                   Log more (up to -vvv)",
   "  -q, --quiet                     Log errors only",
   "      --query <QUERY>             Query, such as \"ti:transformers AND cat:cs.CL\"",
   "      --id-list <ID_LIST>         Identifiers with commas between them",
   "      --start <START>             Offset of the first result [default: 0]",
   "      --max-results <COUNT>       Page size [default: 10]",
   "      --sort-by <FIELD>           relevance, lastUpdatedDate or submittedDate",
   "      --sort-order <ORDER>        ascending or descending",
   "      --all                       Follow the results from page to page",
   "      --limit <COUNT>             Most entries printed with --all [default: 100]",
   "      --retries <COUNT>           Further attempts after failures that may pass",
   "      --rate-limit-ms <INTERVAL>  Interval between requests (0: none)",
   "      --post                      Send the query as a form",
   "      --config <FILE>             Configuration file",
   "  -o, --output <FORM>             auto, table or json [default: auto]",
   "  -h, --help                      Print help",
   "  -V, --version                   Print version"]

def helpText : String :=
  String.join (helpLines.map fun line => line ++ "\n")

/-- What is said of arguments that give nothing to run. -/
def usageText : UsageError → String
  | .help | .version => ""
  | .unknownArgument => "error: unexpected argument found\n"
  | .invalidValue => "error: a value is missing or is none of those there are\n"
  | .unreadableValue => "error: a value cannot be read\n"
  | .repeated => "error: an option is given twice\n"
  | .unneededValue => "error: a flag takes no value\n"

def ofUsageError (e : UsageError) : Ending :=
  match e with
  | .help => ⟨e.exitStatus, helpText, ""⟩
  | .version => ⟨e.exitStatus, programName ++ " " ++ version ++ "\n", ""⟩
  | _ => ⟨e.exitStatus, "", usageText e⟩

/-- An error on its first line, its causes below. -/
def errorText : List String → String
  | [] => ""
  | [message] => "Error: " ++ message ++ "\n"
  | message :: causes =>
    "Error: " ++ message ++ "\n\nCaused by:\n" ++
      String.join (causes.map fun cause => "    " ++ cause ++ "\n")

def ofError (e : RunError) : Ending :=
  ⟨1, "", errorText e.messages⟩

/-- A run that breaks off prints nothing but why, which is left out. -/
def brokenOff : Ending :=
  ⟨101, "", ""⟩

end Ending

/-! ## Plans -/

namespace Arguments

/-- The retry policy with so many attempts after the first. -/
def retryPolicy (config : Config) (retries : UInt32) : RetryPolicy :=
  let base := (config.retry.map RetrySettings.toPolicy).getD .default
  { base with maxAttempts := UInt32.ofNat (min (retries.toNat + 1) (UInt32.size - 1)) }

/-- The settings of the client: those of the configuration, save what arguments say. -/
def settings {σ : Type} (a : Arguments) (config : Config) : Settings σ :=
  let s := config.settings
  let s := match a.retries with
    | none => s
    | some n => s.withRetry (retryPolicy config n)
  let s := match a.rateLimitMillis with
    | none => s
    | some n => { s with rateLimit := .ofMillis n.toNat }
  if a.post then { s with method := .post } else s

end Arguments

/-- What is to be done once it is known that it can be. -/
structure Plan (σ : Type) where
  params : Params
  settings : Settings σ
  /-- Follow the results from page to page. -/
  all : Bool
  /-- The most entries that are printed then. -/
  limit : Nat
  output : Output

namespace Plan

variable {σ : Type}

/-- The plan of a run with these arguments. -/
def ofArguments (a : Arguments) (source : Source) (environment : List Variable) :
    Except RunError (Plan σ) :=
  match Config.load? source environment with
  | none => .error .configuration
  | some config =>
    match a.params with
    | .error cause => .error (.request cause)
    | .ok params =>
      let settings := a.settings config
      match settings.fault? with
      | some cause => .error (.search cause)
      | none => .ok ⟨params, settings, a.all, a.limit.toNat, a.output⟩

/-- The plan of a run, or what the run ends with. The configuration comes from the source that
the file named by the arguments is, if one is named. -/
def make (arguments : List String) (source : Option String → Source)
    (environment : List Variable) : Except Ending (Plan σ) :=
  match Arguments.parse arguments with
  | .error e => .error (.ofUsageError e)
  | .ok a => (ofArguments a (source a.config) environment).mapError .ofError

/-- The entries of one page. -/
def pageEntries (p : Plan σ) (c : Client σ) (token : Cancellation) :
    Search σ (Result (List Entry)) := do
  match ← c.searchWith token p.params with
  | .error e => return .error e
  | .ok page =>
    Search.report .info ("Showing " ++ toString page.size ++ " of " ++ toString page.total.toNat ++
      " results starting at " ++ toString page.start.toNat) []
    return .ok page.entries

/-- The entries that are searched for. An error between pages ends the entries, but a search that
breaks off breaks the run off. There is nothing when the search never ends. -/
def entries (p : Plan σ) (c : Client σ) (token : Cancellation) (s : Session σ) :
    Option (Result (List Entry) × Session σ) :=
  if p.all then do
    let ((entries, it), s) ← (Iter.start p.params token).take c p.limit s
    if it.lastError = some .overflow then return (.error .overflow, s)
    return (.ok entries, (it.reportStop.run s).2)
  else some ((p.pageEntries c token).run s)

/-- The end of the run. -/
def ending (p : Plan σ) (result : Result (List Entry)) : Ending :=
  match result with
  | .ok entries => ⟨0, p.output.render entries, ""⟩
  | .error .overflow => .brokenOff
  | .error e => .ofError (.search e)

end Plan
end PaperSearch
