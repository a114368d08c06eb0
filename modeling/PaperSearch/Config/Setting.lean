import PaperSearch.Fields
import PaperSearch.Number.Shortest

/-!
# Settings

A setting is what a file or an environment says, before it is known what it is for. It is read as
what is asked for where that makes sense: a number as a text, a text as a number or a truth
value.

* `Setting.overlay` sets one setting over another, tables name by name.
* `toFlag?`, `toCount?`, `toAttempts?`, `toFloat?` and `toText?` read a setting.
-/

namespace PaperSearch

inductive Setting where
  | absent
  | flag (b : Bool)
  | whole (n : Int)
  | real (x : Float)
  | text (s : String)
  | list (items : List Setting)
  | table (fields : List (String × Setting))
  deriving Repr

namespace Setting

/-! ## Tables -/

/-- What a table holds; nothing else holds anything. -/
def fields : Setting → List (String × Setting)
  | table fields => fields
  | _ => []

mutual

/-- What stands in place of a setting when another one is set there: a table is added to a table
name by name. -/
def overlay (old : Setting) : Setting → Setting
  | table incoming => table (overlayFields old.fields incoming)
  | new => new

def overlayFields (old : List (String × Setting)) :
    List (String × Setting) → List (String × Setting)
  | [] => old
  | (name, value) :: rest =>
    overlayFields (Fields.put name (overlay ((old.lookup name).getD absent) value) old) rest

end

/-! ## Names -/

/-- May a character stand in a name without quotes? -/
def isNameChar (c : Char) : Bool :=
  c.isAlphanum || c == '_' || c == '-'

/-! ## Reading -/

/-- The truth value that a word stands for, in either case. -/
def truth? (s : String) : Option Bool :=
  let word := s.map Char.toLower
  if word ∈ ["true", "on", "yes"] then some true
  else if word ∈ ["false", "off", "no"] then some false
  else none

def toFlag? : Setting → Option Bool
  | flag b => some b
  | whole n => some (n != 0)
  | real x => some (x != 0.0)
  | text s => if s = "1" then some true else if s = "0" then some false else truth? s
  | _ => none

/-- The count nearest to a number; a half goes away from zero. -/
def nearestCount (x : Float) : UInt64 :=
  x.round.toUInt64

def countOfBool (b : Bool) : UInt64 :=
  if b then 1 else 0

/-- A count of 64 bits. -/
def toCount? : Setting → Option UInt64
  | flag b => some (countOfBool b)
  | whole n => if 0 ≤ n ∧ n < UInt64.size then some (UInt64.ofNat n.toNat) else none
  | real x => some (nearestCount x)
  | text s =>
    match truth? s with
    | some b => some (countOfBool b)
    | none => Text.count? s.toList
  | _ => none

/-- A count of 32 bits. -/
def toAttempts? (s : Setting) : Option UInt32 :=
  match s.toCount? with
  | some n => if n.toNat < UInt32.size then some n.toUInt32 else none
  | none => none

def toFloat? : Setting → Option Float
  | flag b => some (if b then 1.0 else 0.0)
  | whole n => some (Number.ofDecimal (decide (n < 0)) n.natAbs 0)
  | real x => some x
  | text s =>
    match truth? s with
    | some b => some (if b then 1.0 else 0.0)
    | none => Number.ofText? s.toList
  | _ => none

def toText? : Setting → Option String
  | flag b => some (if b then "true" else "false")
  | whole n =>
    some (String.ofList (if n < 0 then '-' :: Text.decimal n.natAbs else Text.decimal n.natAbs))
  | real x => some (String.ofList (Number.plain x))
  | text s => some s
  | _ => none

/-- The name of one thing among several: a text, or the only name of a table. -/
def toChoice? : Setting → Option String
  | text s => some s
  | table [(name, _)] => some name
  | _ => none

/-- The settings of a record with these names: a table holds them by name and a list in order. -/
def record? (names : List String) : Setting → Option (List (String × Setting))
  | table fields => some fields
  | list items => some (names.zip items)
  | _ => none

/-- The setting of a name, or what is there without one. -/
def defaulted? {α : Type} (name : String) (read : Setting → Option α) (default : α)
    (fields : List (String × Setting)) : Option α :=
  match fields.lookup name with
  | some s => read s
  | none => some default

/-- The setting of a name that may be missing or absent. -/
def optional? {α : Type} (name : String) (read : Setting → Option α)
    (fields : List (String × Setting)) : Option (Option α) :=
  match fields.lookup name with
  | none | some absent => some none
  | some s => (read s).map some

end Setting
end PaperSearch
