import PaperSearch.Cli.Table
import PaperSearch.Json.Printer
import PaperSearch.Paper.EntryJson

/-!
# Output of results

Entries are printed as a table or as JSON.

* `Output.render` is what is printed.
* `truncate` shortens a text to so many characters.
-/

namespace PaperSearch

/-- The form of the output. -/
inductive Output where
  /-- A table on a terminal, else JSON. -/
  | auto
  | table
  | json
  deriving DecidableEq, Repr

namespace Output

def name : Output → String
  | auto => "auto"
  | table => "table"
  | json => "json"

def ofName? (s : String) : Option Output :=
  if s = auto.name then some auto
  else if s = table.name then some table
  else if s = json.name then some json
  else none

end Output

/-- A text of at most so many characters, or of three when fewer are asked for; what was cut off is
shown by three dots. -/
def truncate (most : Nat) (s : String) : String :=
  let cs := s.toList
  if most < cs.length then String.ofList (cs.take (most - 3) ++ ['.', '.', '.']) else s

/-- The cells of an entry. -/
def Entry.cells (e : Entry) : List String :=
  [e.arxivId, truncate 50 e.title, truncate 30 e.authorNames,
   (e.primaryCategory.map Category.term).getD "",
   (e.published.map fun t => String.ofList t.dateDigits).getD ""]

def entryTable (entries : List Entry) : Table where
  header := ["ID", "Title", "Authors", "Category", "Published"]
  rows := entries.map Entry.cells

/-- The form of what is printed to a terminal. -/
def Output.onTerminal : Output → Output
  | auto => table
  | form => form

/-- What is printed for entries, without a terminal to print to. -/
def Output.render (form : Output) (entries : List Entry) : String :=
  match form with
  | table => (entryTable entries).render ++ "\n"
  | auto | json => (Json.arr (entries.map Entry.toJson)).pretty ++ "\n"

end PaperSearch
