import PaperSearch.Toml.Word

/-!
# Tables of a settings file

Tables are put together line by line. A name has one value; a table is defined once, by a heading,
by the first of the keys with points that lead through it, or by a heading further down.

* `Table.addPair?` sets the value of a key in a table.
* `Table.define?` begins a table and `Table.append?` one more table of a list of them.
* `Table.toSetting?` is the setting that a table makes in the end.
-/

namespace PaperSearch.Toml

/-- What has made a table. -/
inductive Origin where
  /-- The heading of a table inside it. -/
  | implied
  /-- A key that leads through it. -/
  | dotted
  /-- A heading of its own. -/
  | defined
  deriving DecidableEq, Repr

inductive Node where
  | value (setting : Setting)
  | table (origin : Origin) (fields : List (String × Node))
  /-- A list of tables, the last one first. -/
  | tables (items : List (List (String × Node)))

abbrev Table := List (String × Node)

namespace Table

/-- Replaces a node by one made from a table, if there is one. -/
def replace (t : Table) (name : String) (node : Table → Node) (inner : Option Table) :
    Option Table :=
  inner.map fun inner => Fields.put name (node inner) t

/-- Sets the value of a key, which leads through tables that no heading has made. -/
def addPair? (name : String) (value : Setting) : List String → Table → Option Table
  | [], t => if (t.lookup name).isSome then none else some (Fields.put name (.value value) t)
  | first :: rest, t =>
    match t.lookup first with
    | none => replace t first (.table .dotted) (addPair? name value rest [])
    | some (.table .dotted inner) =>
      replace t first (.table .dotted) (addPair? name value rest inner)
    | some (.table .implied inner) =>
      replace t first (.table (if rest.isEmpty then .dotted else .implied))
        (addPair? name value rest inner)
    | some (.tables (last :: others)) =>
      if rest.isEmpty then none
      else replace t first (fun last => .tables (last :: others)) (addPair? name value rest last)
    | _ => none

/-- Changes the table at a path of headings, the last one of a list of tables. -/
def within? (change : Table → Option Table) : List String → Table → Option Table
  | [], t => change t
  | first :: rest, t =>
    match t.lookup first with
    | none => replace t first (.table .implied) (within? change rest [])
    | some (.table origin inner) =>
      replace t first (.table origin) (within? change rest inner)
    | some (.tables (last :: others)) =>
      replace t first (fun last => .tables (last :: others)) (within? change rest last)
    | _ => none

/-- Begins a table that no heading and no key has made. -/
def define? (name : String) (t : Table) : Option Table :=
  match t.lookup name with
  | none => some (Fields.put name (.table .defined []) t)
  | some (.table .implied inner) => some (Fields.put name (.table .defined inner) t)
  | _ => none

/-- Begins one more table of a list. -/
def append? (name : String) (t : Table) : Option Table :=
  match t.lookup name with
  | none => some (Fields.put name (.tables [[]]) t)
  | some (.tables items) => some (Fields.put name (.tables ([] :: items)) t)
  | _ => none

end Table

/-- The name by which a table stands for the date or time that its value writes. -/
def momentName : String := "$__toml_private_datetime"

/-- The setting that named settings make together: a date or time when `momentName` comes before
all other names, else a table. -/
def together? (fields : List (String × Setting)) : Option Setting :=
  match fields.lookup momentName with
  | none => some (.table fields)
  | some s =>
    if fields.any fun (name, _) => decide (name < momentName) then some (.table fields)
    else
      match s with
      | .text text => moment? text.toList
      | _ => none

mutual

/-- The setting that a node is. -/
def Node.toSetting? : Node → Option Setting
  | .value s => some s
  | .table _ fields => (settingsOf? fields).bind together?
  | .tables items => (settingsOfTables? items).map fun items => .list items.reverse

def settingsOf? : List (String × Node) → Option (List (String × Setting))
  | [] => some []
  | (name, node) :: rest =>
    match node.toSetting?, settingsOf? rest with
    | some s, some settings => some ((name, s) :: settings)
    | _, _ => none

/-- The settings that tables are, in their order. -/
def settingsOfTables? : List (List (String × Node)) → Option (List Setting)
  | [] => some []
  | fields :: rest =>
    match (settingsOf? fields).bind together?, settingsOfTables? rest with
    | some s, some settings => some (s :: settings)
    | _, _ => none

end

/-- The setting that a table is. -/
def Table.toSetting? (t : Table) : Option Setting :=
  (settingsOf? t).bind together?

end PaperSearch.Toml
