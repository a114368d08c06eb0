import PaperSearch.Config.Basic
import PaperSearch.Config.Path
import PaperSearch.Json.Parser
import PaperSearch.Toml.Document

/-!
# Loading a configuration

A configuration is loaded from a file, if one is named, and from the environment, which goes
before the file. A variable `ARXIV_SEARCH_RETRY__MAX_ATTEMPTS`, in either case, is the setting
`retry.max_attempts`.

* `Config.load?` loads a configuration; it fails when a setting makes no sense.
-/

namespace PaperSearch

/-! ## Records -/

def RetrySettings.ofSetting? (s : Setting) : Option RetrySettings := do
  let fields ← s.record? fieldNames
  let maxAttempts ← Setting.defaulted? "max_attempts" Setting.toAttempts?
    default.maxAttempts fields
  let initialMillis ← Setting.defaulted? "initial_interval_ms" Setting.toCount?
    default.initialMillis fields
  let maxMillis ← Setting.defaulted? "max_interval_ms" Setting.toCount? default.maxMillis fields
  let multiplier ← Setting.defaulted? "multiplier" Setting.toFloat? default.multiplier fields
  pure ⟨maxAttempts, initialMillis, maxMillis, multiplier⟩

def Method.ofSetting? (s : Setting) : Option Method :=
  s.toChoice?.bind Method.ofName?

def Config.ofFields? (fields : List (String × Setting)) : Option Config := do
  let baseUrl ← Setting.defaulted? "base_url" Setting.toText? default.baseUrl fields
  let method ← Setting.defaulted? "method" Method.ofSetting? default.method fields
  let timeoutMillis ← Setting.defaulted? "timeout_ms" Setting.toCount?
    default.timeoutMillis fields
  let rateLimitMillis ← Setting.defaulted? "rate_limit_ms" Setting.toCount?
    default.rateLimitMillis fields
  let retry ← Setting.optional? "retry" RetrySettings.ofSetting? fields
  let userAgent ← Setting.optional? "user_agent" Setting.toText? fields
  let cacheSeconds ← Setting.optional? "cache_ttl_secs" Setting.toCount? fields
  let logRequests ← Setting.defaulted? "log_requests" Setting.toFlag?
    default.logRequests fields
  pure ⟨baseUrl, method, timeoutMillis, rateLimitMillis, retry, userAgent, cacheSeconds,
    logRequests⟩

/-! ## Files -/

mutual

/-- The setting that a JSON value is. -/
def Setting.ofJson : Json → Setting
  | .null => .absent
  | .bool b => .flag b
  | .int n => .whole n
  | .decimal negative mantissa exponent => .real (Json.number negative mantissa exponent)
  | .str s => .text s
  | .arr items => .list (settingsOfItems items)
  | .obj fields => .table (settingsOfFields fields)

def settingsOfItems : List Json → List Setting
  | [] => []
  | j :: rest => Setting.ofJson j :: settingsOfItems rest

def settingsOfFields : List (String × Json) → List (String × Setting)
  | [] => []
  | (name, j) :: rest => (name, Setting.ofJson j) :: settingsOfFields rest

end

/-- How deep arrays and objects may stand inside each other in a file. -/
def Json.depthLimit : Nat := 127

/-- A file of settings: what its name ends with, and its text. -/
structure SettingsFile where
  extension : String
  text : String
  deriving Repr

namespace SettingsFile

/-- What the name of a file ends with, after its last point; nothing when that is where the name
begins. -/
def extensionOf (path : String) : String :=
  let name := (path.toList.reverse.takeWhile fun c => c != '/').reverse
  match name.drop 1 |>.reverse |>.span fun c => c != '.' with
  | (extension, '.' :: _) => String.ofList extension.reverse
  | _ => ""

def ofPath (path text : String) : SettingsFile :=
  ⟨extensionOf path, text⟩

/-- The text without the mark that some editors put before it. -/
def content (f : SettingsFile) : List Char :=
  match f.text.toList with
  | '\ufeff' :: rest => rest
  | cs => cs

/-- What a file says, if it is of a known kind and can be read. -/
def settings? (f : SettingsFile) : Option (List (String × Setting)) :=
  match f.extension with
  | "toml" => Toml.parse? f.content
  | "json" =>
    match Json.parse? Json.depthLimit f.content with
    | some (.obj fields) => some (settingsOfFields fields)
    | _ => none
  | _ => none

end SettingsFile

/-! ## The environment -/

/-- A variable of the environment. -/
structure Variable where
  name : String
  value : String
  deriving Repr

namespace Variable

/-- What the names of our variables begin with. -/
def beginning : List Char := "arxiv_search_".toList

/-- A name with a point in place of every two underscores. -/
def dotted : List Char → List Char
  | '_' :: '_' :: rest => '.' :: dotted rest
  | c :: rest => c :: dotted rest
  | [] => []

/-- A letter of a name in lower case. Outside ASCII only the sign for kelvin becomes a letter of
ASCII, and no other one can stand in a key that is known. -/
def lower (c : Char) : Char :=
  if c = '\u212a' then 'k' else c.toLower

/-- The key that a variable sets, if it is one of ours. -/
def key? (v : Variable) : Option String :=
  let name := v.name.toList.map lower
  if beginning.isPrefixOf name then
    some (String.ofList (dotted (name.drop beginning.length)))
  else none

/-- The value of a variable: a truth value or a number if it reads as one, else a text. -/
def setting (v : Variable) : Setting :=
  let word := v.value.map Char.toLower
  if word = "true" then .flag true
  else if word = "false" then .flag false
  else
    match (Number.integer? v.value.toList).filter Number.fitsInt64 with
    | some n => .whole n
    | none =>
      match Number.ofText? v.value.toList with
      | some x => .real x
      | none => .text v.value

end Variable

/-- The settings of an environment. Of two variables with one key the later one counts. -/
def environmentSettings (environment : List Variable) : List (String × Setting) :=
  environment.foldl (fun fields v =>
    match v.key? with
    | some key => Fields.put key v.setting fields
    | none => fields) []

/-- What a configuration is loaded from. -/
inductive Source where
  | nothing
  | file (file : SettingsFile)
  /-- A file that is not there. -/
  | missing
  deriving Repr

/-- The configuration of a source and an environment. -/
def Config.load? (source : Source) (environment : List Variable) : Option Config := do
  let fromFile ←
    match source with
    | .nothing => some []
    | .file file => file.settings?
    | .missing => none
  let settings := Setting.merge (.table []) fromFile
  ofFields? (settings.merge (environmentSettings environment)).fields

end PaperSearch
