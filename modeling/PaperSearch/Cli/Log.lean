import PaperSearch.Cli.Arguments
import PaperSearch.Client.Trace

/-!
# The log of a run

What a client reports is printed as lines of errors, as far as the arguments ask for it: errors
always, more with each `-v`, and no warnings with `-q`.
-/

namespace PaperSearch

def Reported.shown : Reported → String
  | number n => toString n
  | text s => s

/-- An event on a line: its level, what is said, and its fields. -/
def LogEvent.line (e : LogEvent) : String :=
  e.level.name ++ " " ++ e.message ++
    String.join (e.fields.map fun (name, value) => " " ++ name ++ "=" ++ value.shown)

namespace Arguments

/-- Are events of a level printed? -/
def shows (a : Arguments) (level : Level) : Bool :=
  match level with
  | .error => true
  | .warn => !a.quiet
  | .info => !a.quiet && 1 ≤ a.verbose
  | .debug => !a.quiet && 2 ≤ a.verbose

/-- The lines that are printed of what has happened. -/
def log (a : Arguments) (trace : List Happening) : List String :=
  ((Happening.events trace).filter fun e => a.shows e.level).map LogEvent.line

end Arguments
end PaperSearch
