import PaperSearch.Json.Lexeme

/-!
# Reading JSON

The values of a text are put together from its lexemes, with the arrays and objects that are open
held in a list. Of two values under one name the last is kept.

* `Json.parse?` reads a text that holds one value, nested to a given depth at most.
-/

namespace PaperSearch.Json

/-- An array or object that is open. Items stand last first. -/
inductive Frame where
  | array (items : List Json)
  | object (fields : List (String × Json)) (name : String)

/-- What may come next. -/
inductive Expected where
  | value
  | valueOrClose
  | nameOrClose
  | name
  | colon (name : String)
  | commaOrClose
  | nothing

structure Assembly where
  frames : List Frame
  expected : Expected
  result : Option Json

namespace Assembly

def start : Assembly := ⟨[], .value, none⟩

/-- A complete value goes where it belongs. -/
def complete (a : Assembly) (value : Json) : Assembly :=
  match a.frames with
  | [] => { a with expected := .nothing, result := some value }
  | .array items :: rest =>
    { a with frames := .array (value :: items) :: rest, expected := .commaOrClose }
  | .object fields name :: rest =>
    { a with
      frames := .object (Fields.put name value fields) name :: rest, expected := .commaOrClose }

/-- May a value stand here? -/
def takesValue (a : Assembly) : Bool :=
  match a.expected with
  | .value | .valueOrClose => true
  | _ => false

/-- The innermost array or object ends. -/
def close? (a : Assembly) (frame : Frame) (rest : List Frame) : Option Assembly :=
  match frame with
  | .array items => some ({ a with frames := rest }.complete (.arr items.reverse))
  | .object fields _ => some ({ a with frames := rest }.complete (.obj fields))

/-- One lexeme more. -/
def step? (depth : Nat) (a : Assembly) : Lexeme → Option Assembly
  | .scalar value =>
    if a.takesValue then some (a.complete value)
    else match a.expected, value with
      | .name, .str s | .nameOrClose, .str s => some { a with expected := .colon s }
      | _, _ => none
  | .openArray =>
    if a.takesValue && decide (a.frames.length < depth) then
      some { a with frames := .array [] :: a.frames, expected := .valueOrClose }
    else none
  | .openObject =>
    if a.takesValue && decide (a.frames.length < depth) then
      some { a with frames := .object [] "" :: a.frames, expected := .nameOrClose }
    else none
  | .closeArray =>
    match a.expected, a.frames with
    | .valueOrClose, .array items :: rest | .commaOrClose, .array items :: rest =>
      a.close? (.array items) rest
    | _, _ => none
  | .closeObject =>
    match a.expected, a.frames with
    | .nameOrClose, .object fields name :: rest | .commaOrClose, .object fields name :: rest =>
      a.close? (.object fields name) rest
    | _, _ => none
  | .comma =>
    match a.expected, a.frames with
    | .commaOrClose, .array _ :: _ => some { a with expected := .value }
    | .commaOrClose, .object _ _ :: _ => some { a with expected := .name }
    | _, _ => none
  | .colon =>
    match a.expected, a.frames with
    | .colon name, .object fields _ :: rest =>
      some { a with frames := .object fields name :: rest, expected := .value }
    | _, _ => none

def run? (depth : Nat) (a : Assembly) : List Lexeme → Option Assembly
  | [] => some a
  | l :: rest =>
    match a.step? depth l with
    | some a => a.run? depth rest
    | none => none

end Assembly

/-- The value that a text holds. -/
def parse? (depth : Nat) (s : List Char) : Option Json := do
  let lexemes ← Lexeme.ofText? s
  let a ← Assembly.start.run? depth lexemes
  a.result

end PaperSearch.Json
