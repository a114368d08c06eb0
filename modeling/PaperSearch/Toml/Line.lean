/-!
# Lines of a settings file

A line ends with a line feed, which may have a carriage return before it, and `#` begins a comment
up to there. A carriage return stands nowhere else.

* `lineEnd?` reads the end of a line, `endLine?` one with spaces and a comment before it.
* `skipLines?` passes over blank lines and comments.
-/

namespace PaperSearch.Toml

/-- May a character stand in a line? -/
def isPlain (c : Char) : Bool :=
  c == '\t' || (32 ≤ c.toNat && c.toNat != 127)

def isSpace (c : Char) : Bool :=
  c == ' ' || c == '\t'

def skipSpace (s : List Char) : List Char :=
  s.dropWhile isSpace

/-- What follows the end of a line, if one is here. -/
def lineEnd? : List Char → Option (List Char)
  | '\n' :: rest => some rest
  | '\r' :: '\n' :: rest => some rest
  | _ => none

/-- The end of a line or of the file, after spaces and a comment if any. -/
def endLine? (s : List Char) : Option (List Char) :=
  let rest :=
    match skipSpace s with
    | '#' :: rest => rest.dropWhile isPlain
    | rest => rest
  if rest.isEmpty then some [] else lineEnd? rest

/-- Spaces, comments and line ends, from inside a comment or not. -/
def skipLines? (comment : Bool) : List Char → Option (List Char)
  | [] => some []
  | '\n' :: rest => skipLines? false rest
  | '\r' :: '\n' :: rest => skipLines? false rest
  | c :: rest =>
    if comment then if isPlain c then skipLines? true rest else none
    else if isSpace c then skipLines? false rest
    else if c = '#' then skipLines? true rest
    else some (c :: rest)

end PaperSearch.Toml
