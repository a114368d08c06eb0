import PaperSearch.Text.Cut
import PaperSearch.Xml.Reference

/-!
# Attributes

A start tag holds a name and attributes, each a name, `=` and a value in quotes. White space in
markup is the space, the tab and the two line breaks.

* `Tag.attributes` reads the attributes in order, up to the first fault.
* `Tag.attribute?` looks one up by the local part of its name, and looks no further than it must.
-/

namespace PaperSearch.Xml

/-- White space in markup. -/
def isSpace (c : Char) : Bool :=
  c == ' ' || c == '\t' || c == '\n' || c == '\r'

/-- What follows the first colon of a name, or else the name. -/
def localName (name : List Char) : List Char :=
  match Text.cutAt? (fun c => c == ':') name with
  | some (_, after) => after
  | none => name

/-- Why attributes cannot be read. Places are byte offsets in the tag, from just after its `<`. -/
inductive AttributeFault where
  | missingEquals (place : Nat)
  | missingValue (place : Nat)
  | unquotedValue (place : Nat)
  | missingQuote (place : Nat) (quote : Char)
  | duplicate (place earlier : Nat)
  | reference (fault : ReferenceFault)
  deriving DecidableEq, Repr

namespace AttributeFault

def front (place : Nat) : String :=
  "position " ++ String.ofList (Text.decimal place) ++ ": "

def message : AttributeFault → String
  | missingEquals place =>
    front place ++ "attribute key must be directly followed by `=` or space"
  | missingValue place => front place ++ "`=` must be followed by an attribute value"
  | unquotedValue place =>
    front place ++ "attribute value must be enclosed in `\"` or `'`"
  | missingQuote place quote =>
    front place ++ "missing closing quote `" ++ String.ofList [quote] ++ "` in attribute value"
  | duplicate place earlier =>
    front place ++ "duplicated attribute, previous declaration at position " ++
      String.ofList (Text.decimal earlier)
  | reference fault => fault.message

end AttributeFault

structure Attribute where
  name : List Char
  /-- The value as written, references and all. -/
  raw : List Char
  deriving DecidableEq, Repr

/-- What stands between `<` and `>` of a start tag, or between `<` and `/>`. -/
structure Tag where
  content : List Char
  deriving DecidableEq, Repr

namespace Tag

def name (t : Tag) : List Char :=
  t.content.takeWhile fun c => !isSpace c

def localName (t : Tag) : List Char :=
  Xml.localName t.name

/-- Attributes up to the end of the tag or up to the first fault. -/
structure Reading where
  attributes : List Attribute
  fault : Option AttributeFault
  deriving Repr

/-- The reading that goes on with one attribute more in front. -/
def Reading.cons (a : Attribute) (r : Reading) : Reading :=
  { r with attributes := a :: r.attributes }

def endsName (c : Char) : Bool :=
  c == '=' || isSpace c

/-- Reads attributes from the end of a tag of `size` bytes, given the names before it and their
places. -/
def readFrom (size : Nat) (seen : List (List Char × Nat)) (s : List Char) : Reading :=
  match _front : s.dropWhile isSpace with
  | [] => ⟨[], none⟩
  | c :: rest =>
    let name := c :: rest.takeWhile fun d => !endsName d
    let place := size - Text.byteLength (c :: rest)
    match _equals : (rest.dropWhile fun d => !endsName d).dropWhile isSpace with
    | '=' :: afterEquals =>
      match List.lookup name seen with
      | some earlier => ⟨[], some (.duplicate place earlier)⟩
      | none =>
        match _opening : afterEquals.dropWhile isSpace with
        | [] => ⟨[], some (.missingValue size)⟩
        | quote :: afterQuote =>
          if quote = '"' ∨ quote = '\'' then
            match _cut : Text.cutAt? (fun d => d == quote) afterQuote with
            | none => ⟨[], some (.missingQuote size quote)⟩
            | some (raw, after) => .cons ⟨name, raw⟩ (readFrom size ((name, place) :: seen) after)
          else ⟨[], some (.unquotedValue (size - Text.byteLength (quote :: afterQuote)))⟩
    | other => ⟨[], some (.missingEquals (size - Text.byteLength other))⟩
termination_by s.length
decreasing_by
  have h₁ := Text.cutAt?_length _cut
  have h₂ := congrArg List.length _opening
  have h₃ := congrArg List.length _equals
  have h₄ := congrArg List.length _front
  have h₅ := Text.length_dropWhile_le isSpace afterEquals
  have h₆ := Text.length_dropWhile_le isSpace (rest.dropWhile fun d => !endsName d)
  have h₇ := Text.length_dropWhile_le (fun d => !endsName d) rest
  have h₈ := Text.length_dropWhile_le isSpace s
  simp only [List.length_cons] at *; omega

/-- The attributes of a tag. -/
def attributes (t : Tag) : Reading :=
  readFrom (Text.byteLength t.content) [] (t.content.dropWhile fun c => !isSpace c)

/-- The value of the first attribute with a local name. A fault counts only when it stands before
that attribute. -/
def attribute? (t : Tag) (wanted : List Char) : Except AttributeFault (Option (List Char)) :=
  match t.attributes.attributes.find? fun a => Xml.localName a.name == wanted with
  | some a => ((expand a.raw).mapError .reference).map some
  | none =>
    match t.attributes.fault with
    | some fault => .error fault
    | none => .ok none

end Tag
end PaperSearch.Xml
