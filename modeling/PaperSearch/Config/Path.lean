import PaperSearch.Config.Setting
import PaperSearch.Number.Decimal
import PaperSearch.Text.Cut

/-!
# Paths to settings

A key is a path: a name, then names after points and places of lists in brackets, as in
`retry.max_attempts` or `retry[0]`. A place below zero counts from the end of its list.

* `PathStep.ofKey` reads a key; one that is no path is a name as a whole.
* `Setting.put` sets a value at a path, `Setting.merge` sets many.
-/

namespace PaperSearch

inductive PathStep where
  /-- A name in a table. -/
  | name (name : String)
  /-- A place in a list. -/
  | place (index : Int)
  deriving DecidableEq, Repr

namespace PathStep

def isBlank (c : Char) : Bool :=
  c == ' ' || c == '\t'

/-- The place that the text between two brackets names, if 64 bits hold its number. -/
def place? (s : List Char) : Option PathStep :=
  let index? : Option Int :=
    match ((s.dropWhile isBlank).reverse.dropWhile isBlank).reverse with
    | '-' :: digits => (Text.natural? digits).map fun n => -(n : Int)
    | digits => (Text.natural? digits).map fun n => (n : Int)
  (index?.filter Number.fitsInt64).map place

/-- The steps that a text names, each with the mark before it. -/
def steps? (s : List Char) : Option (List PathStep) :=
  match s with
  | [] => some []
  | '.' :: rest =>
    match rest.takeWhile Setting.isNameChar with
    | [] => none
    | n => (steps? (rest.dropWhile Setting.isNameChar)).map fun steps =>
        name (String.ofList n) :: steps
  | '[' :: rest =>
    match _found : Text.cutAt? (fun c => c == ']') rest with
    | none => none
    | some (index, rest) =>
      match place? index, steps? rest with
      | some step, some steps => some (step :: steps)
      | _, _ => none
  | _ => none
termination_by s.length
decreasing_by
  · have := Text.length_dropWhile_le Setting.isNameChar rest
    simp only [List.length_cons]; omega
  · have := Text.cutAt?_length _found
    simp only [List.length_cons] at *; omega

/-- The steps of a key, whose first name has no mark before it. -/
def ofKey (key : String) : List PathStep :=
  (steps? ('.' :: key.toList)).getD [name key]

end PathStep

namespace Setting

/-- What is in a list; nothing else has places. -/
def items : Setting → List Setting
  | list items => items
  | _ => []

/-- Changes what stands at a place. A list that does not reach it is made longer, at its end or,
when places count from there, at its beginning. -/
def changeAt (index : Int) (change : Setting → Setting) (items : List Setting) : List Setting :=
  if 0 ≤ index then
    (items ++ List.replicate (index.toNat + 1 - items.length) absent).modify index.toNat change
  else
    let back := index.natAbs
    (List.replicate (back - items.length) absent ++ items).modify (items.length - back) change

/-- Sets a value at a path; what stands in the way becomes a table or a list. -/
def put (value : Setting) : List PathStep → Setting → Setting
  | [], old => overlay old value
  | .name n :: rest, old =>
    let inner := (old.fields.lookup n).getD absent
    table (Fields.put n (put value rest inner) old.fields)
  | .place index :: rest, old =>
    list (changeAt index (fun inner => put value rest inner) old.items)

/-- Sets the values of many keys, one after the other. -/
def merge (old : Setting) (values : List (String × Setting)) : Setting :=
  values.foldl (fun s (key, value) => put value (PathStep.ofKey key) s) old

end Setting
end PaperSearch
