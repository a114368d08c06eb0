import PaperSearch.Cli.Output
import PaperSearch.Search.Sort
import PaperSearch.Text.Digits

/-!
# Arguments

Arguments are options with a value, flags without one, and nothing else. Long names follow two
hyphens, and a value may follow the name after `=`; short names are letters after one hyphen, and
a value may follow its letter at once. A value is read when the next argument that is understood
comes, or at the end.

* `Arguments.parse` reads the arguments of a command line.
-/

namespace PaperSearch

/-- An option that takes a value. -/
inductive ValueOption where
  | query
  | idList
  | start
  | maxResults
  | sortBy
  | sortOrder
  | limit
  | retries
  | rateLimit
  | config
  | output
  deriving DecidableEq, Repr

/-- An option without a value. -/
inductive Flag where
  | verbose
  | quiet
  | all
  | post
  | help
  | version
  deriving DecidableEq, Repr

/-- Why arguments give nothing to run. The first two are asked for. -/
inductive UsageError where
  | help
  | version
  | unknownArgument
  /-- A value is missing, or is none of those there are. -/
  | invalidValue
  /-- A value cannot be read. -/
  | unreadableValue
  /-- An option stands twice that may stand once. -/
  | repeated
  /-- A flag has a value. -/
  | unneededValue
  deriving DecidableEq, Repr

/-- The status that a program ends with when it does not run. -/
def UsageError.exitStatus : UsageError → Nat
  | help => 0
  | version => 0
  | _ => 2

def ValueOption.ofLong? (name : String) : Option ValueOption :=
  match name with
  | "query" => some .query
  | "id-list" => some .idList
  | "start" => some .start
  | "max-results" => some .maxResults
  | "sort-by" => some .sortBy
  | "sort-order" => some .sortOrder
  | "limit" => some .limit
  | "retries" => some .retries
  | "rate-limit-ms" => some .rateLimit
  | "config" => some .config
  | "output" => some .output
  | _ => none

def Flag.ofLong? (name : String) : Option Flag :=
  match name with
  | "verbose" => some .verbose
  | "quiet" => some .quiet
  | "all" => some .all
  | "post" => some .post
  | "help" => some .help
  | "version" => some .version
  | _ => none

def Flag.ofShort? (c : Char) : Option Flag :=
  match c with
  | 'v' => some .verbose
  | 'q' => some .quiet
  | 'h' => some .help
  | 'V' => some .version
  | _ => none

/-- What arguments have said so far. -/
structure Given where
  verbose : Nat
  quiet : Bool
  all : Bool
  post : Bool
  ids : List String
  query : Option String
  start : Option UInt64
  maxResults : Option UInt64
  sortField : Option SortField
  sortOrder : Option SortOrder
  limit : Option UInt64
  retries : Option UInt32
  rateLimitMillis : Option UInt64
  config : Option String
  output : Option Output
  deriving Repr

namespace Given

def nothing : Given where
  verbose := 0
  quiet := false
  all := false
  post := false
  ids := []
  query := none
  start := none
  maxResults := none
  sortField := none
  sortOrder := none
  limit := none
  retries := none
  rateLimitMillis := none
  config := none
  output := none

/-- Has an option been given that may be given once? -/
def has (g : Given) : ValueOption → Bool
  | .query => g.query.isSome
  | .idList => false
  | .start => g.start.isSome
  | .maxResults => g.maxResults.isSome
  | .sortBy => g.sortField.isSome
  | .sortOrder => g.sortOrder.isSome
  | .limit => g.limit.isSome
  | .retries => g.retries.isSome
  | .rateLimit => g.rateLimitMillis.isSome
  | .config => g.config.isSome
  | .output => g.output.isSome

/-- A value, or the fault if there is none. -/
def need {α : Type} (fault : UsageError) : Option α → Except UsageError α
  | some a => .ok a
  | none => .error fault

/-- A number of 32 bits: a sign if any, then digits. -/
def attempts? (s : List Char) : Option UInt32 :=
  let number := match s with
    | '+' :: digits => Text.natural? digits
    | '-' :: digits => (Text.natural? digits).filter fun n => n = 0
    | digits => Text.natural? digits
  match number with
  | some n => if n < UInt32.size then some (UInt32.ofNat n) else none
  | none => none

/-- The identifiers of a list with commas between them. -/
def splitList (s : String) : List String :=
  s.splitOn ","

/-- Reads the value of an option. -/
def setValue (g : Given) (option : ValueOption) (s : String) : Except UsageError Given :=
  if g.has option then .error .repeated
  else
    match option with
    | .query => .ok { g with query := some s }
    | .idList => .ok { g with ids := g.ids ++ splitList s }
    | .start =>
      (need .unreadableValue (Text.count? s.toList)).map fun n => { g with start := some n }
    | .maxResults =>
      (need .unreadableValue (Text.count? s.toList)).map fun n => { g with maxResults := some n }
    | .sortBy =>
      (need .unreadableValue (SortField.ofName? s)).map fun f => { g with sortField := some f }
    | .sortOrder =>
      (need .unreadableValue (SortOrder.ofName? s)).map fun o => { g with sortOrder := some o }
    | .limit =>
      (need .unreadableValue (Text.count? s.toList)).map fun n => { g with limit := some n }
    | .retries =>
      (need .unreadableValue (attempts? s.toList)).map fun n => { g with retries := some n }
    | .rateLimit =>
      (need .unreadableValue (Text.count? s.toList)).map fun n =>
        { g with rateLimitMillis := some n }
    | .config => if s.isEmpty then .error .invalidValue else .ok { g with config := some s }
    | .output =>
      (need .invalidValue (Output.ofName? s)).map fun o => { g with output := some o }

/-- Sets a flag. -/
def setFlag (g : Given) : Flag → Except UsageError Given
  | .verbose => .ok { g with verbose := min (g.verbose + 1) 255 }
  | .quiet => if g.quiet then .error .repeated else .ok { g with quiet := true }
  | .all => if g.all then .error .repeated else .ok { g with all := true }
  | .post => if g.post then .error .repeated else .ok { g with post := true }
  | .help => .error .help
  | .version => .error .version

end Given

/-- Where the reading of arguments stands. -/
structure ArgumentReading where
  given : Given
  /-- An option whose value has not been read, with the value if there is one. -/
  pending : Option (ValueOption × Option String)
  deriving Repr

namespace ArgumentReading

def start : ArgumentReading := ⟨.nothing, none⟩

/-- Reads the value that is pending. -/
def settle (r : ArgumentReading) : Except UsageError Given :=
  match r.pending with
  | none => .ok r.given
  | some (_, none) => .error .invalidValue
  | some (option, some s) => r.given.setValue option s

/-- An option, with its value if that is attached to it. -/
def takeOption (r : ArgumentReading) (option : ValueOption) (attached : Option String) :
    Except UsageError ArgumentReading := do
  let given ← r.settle
  match attached with
  | none => return ⟨given, some (option, none)⟩
  | some s => return ⟨← given.setValue option s, none⟩

def takeFlag (r : ArgumentReading) (flag : Flag) : Except UsageError ArgumentReading := do
  let given ← r.settle
  return ⟨← given.setFlag flag, none⟩

/-- A name after two hyphens, with what follows its `=`. -/
def takeLong (r : ArgumentReading) (name : String) (attached : Option String) :
    Except UsageError ArgumentReading :=
  match ValueOption.ofLong? name, Flag.ofLong? name with
  | some option, _ => r.takeOption option attached
  | none, some flag => if attached.isSome then .error .unneededValue else r.takeFlag flag
  | none, none => .error .unknownArgument

/-- Letters after one hyphen. -/
def takeShort (r : ArgumentReading) : List Char → Except UsageError ArgumentReading
  | [] => .ok r
  | 'o' :: rest =>
    r.takeOption .output <|
      match rest with
      | [] => none
      | '=' :: attached => some (String.ofList attached)
      | attached => some (String.ofList attached)
  | c :: rest =>
    match Flag.ofShort? c with
    | none => .error .unknownArgument
    | some flag =>
      match r.takeFlag flag with
      | .error e => .error e
      | .ok r => r.takeShort rest

/-- An argument that names no option is the value of the option before it. -/
def takeValue (r : ArgumentReading) (s : String) : Except UsageError ArgumentReading :=
  match r.pending with
  | some (option, none) => .ok { r with pending := some (option, some s) }
  | _ => .error .unknownArgument

/-- A name and what follows its first `=`. -/
def splitName (s : List Char) : String × Option String :=
  match s.dropWhile fun c => c != '=' with
  | _ :: attached => (String.ofList (s.takeWhile fun c => c != '='), some (String.ofList attached))
  | [] => (String.ofList s, none)

def takeArgument (r : ArgumentReading) (argument : String) : Except UsageError ArgumentReading :=
  match argument.toList with
  | '-' :: '-' :: name => let (name, attached) := splitName name; r.takeLong name attached
  | '-' :: c :: letters => r.takeShort (c :: letters)
  | _ => r.takeValue argument

/-- Reads arguments up to their end. After two hyphens alone no option may follow, and so nothing
may. -/
def run (r : ArgumentReading) : List String → Except UsageError Given
  | [] => r.settle
  | "--" :: rest => if rest.isEmpty then r.settle else .error .unknownArgument
  | argument :: rest =>
    match r.takeArgument argument with
    | .error e => .error e
    | .ok r => r.run rest

end ArgumentReading

/-- What a command line asks for. -/
structure Arguments where
  verbose : Nat
  quiet : Bool
  query : Option String
  ids : List String
  start : UInt64
  maxResults : UInt64
  sortField : Option SortField
  sortOrder : Option SortOrder
  /-- Follow the results from page to page. -/
  all : Bool
  /-- The most entries that are printed then. -/
  limit : UInt64
  retries : Option UInt32
  rateLimitMillis : Option UInt64
  post : Bool
  config : Option String
  output : Output
  deriving Repr

namespace Arguments

/-- What is not given has a default. -/
def ofGiven (g : Given) : Arguments where
  verbose := g.verbose
  quiet := g.quiet
  query := g.query
  ids := g.ids
  start := g.start.getD 0
  maxResults := g.maxResults.getD 10
  sortField := g.sortField
  sortOrder := g.sortOrder
  all := g.all
  limit := g.limit.getD 100
  retries := g.retries
  rateLimitMillis := g.rateLimitMillis
  post := g.post
  config := g.config
  output := g.output.getD .auto

def parse (arguments : List String) : Except UsageError Arguments :=
  (ArgumentReading.start.run arguments).map ofGiven

end Arguments
end PaperSearch
