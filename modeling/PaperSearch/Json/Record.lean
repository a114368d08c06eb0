import PaperSearch.Json.Basic

/-!
# Records in JSON

A record is an object with its fields by name, other names ignored, or an array with the values in
the order of the fields. A value of an enumeration is its name, or an object that holds `null`
under that name and nothing else.

* `Json.record?` gives the fields of a record.
* `Json.required?`, `Json.optional?` read one of them.
* `Json.variant?` gives the name of a value of an enumeration.
-/

namespace PaperSearch.Json

/-- The fields of a record. In an array, fields may be left out from the place `least` on. -/
def record? (names : List String) (least : Nat) : Json → Option (List (String × Json))
  | obj fields => some fields
  | arr items =>
    if least ≤ items.length ∧ items.length ≤ names.length then some (names.zip items) else none
  | _ => none

/-- A field that must be there. -/
def required? {α : Type} (name : String) (read : Json → Option α)
    (fields : List (String × Json)) : Option α :=
  (fields.lookup name).bind read

/-- A field that may be missing or `null`. -/
def optional? {α : Type} (name : String) (read : Json → Option α)
    (fields : List (String × Json)) : Option (Option α) :=
  match fields.lookup name with
  | none | some null => some none
  | some value => (read value).map some

/-- A field that may be missing and then has a value of its own. -/
def defaulted? {α : Type} (name : String) (read : Json → Option α) (missing : α)
    (fields : List (String × Json)) : Option α :=
  match fields.lookup name with
  | none => some missing
  | some value => read value

/-- An array of things of one kind. -/
def list? {α : Type} (read : Json → Option α) (j : Json) : Option (List α) :=
  j.items?.bind (List.mapM read)

/-- The name that a value of an enumeration is written with. -/
def variant? : Json → Option String
  | str name => some name
  | obj [(name, null)] => some name
  | _ => none

/-- A value, or `null` when there is none. -/
def ofOption {α : Type} (write : α → Json) : Option α → Json
  | none => null
  | some a => write a

/-- A field that is written only when it has a value. -/
def present (name : String) : Option String → List (String × Json)
  | none => []
  | some s => [(name, str s)]

def ofCount (n : UInt64) : Json :=
  int n.toNat

end PaperSearch.Json
