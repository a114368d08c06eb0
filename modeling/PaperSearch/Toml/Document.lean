import PaperSearch.Toml.Quote
import PaperSearch.Toml.Table
import PaperSearch.Toml.Word

/-!
# Settings files

A settings file has a key and its value on each line, under headings that name tables, and
comments after `#`. Lists and tables may also be written as values, which may take several lines.

* `Toml.parse?` reads a file.
-/

namespace PaperSearch.Toml

/-! ## Keys -/

/-- One name of a key. -/
def name? (s : List Char) : Option (String × List Char) :=
  match s with
  | [] => none
  | c :: _ =>
    if c = '"' ∨ c = '\'' then (quotedLine? s).map fun (n, rest) => (String.ofList n, rest)
    else if Setting.isNameChar c then
      some (String.ofList (s.takeWhile Setting.isNameChar), s.dropWhile Setting.isNameChar)
    else none

/-- A key: names with points between them. Those read stand last first. -/
def keyFrom? (done : List String) (s : List Char) : Option (List String × List Char) :=
  match name? s with
  | none => none
  | some (name, rest) =>
    match skipSpace rest with
    | '.' :: more =>
      let more := skipSpace more
      if more.length < s.length then keyFrom? (name :: done) more else none
    | rest => some ((name :: done).reverse, rest)
termination_by s.length

/-- How many names a key may have, and how deep lists and tables may stand inside each other. -/
def depthLimit : Nat := 80

/-- A key that does not have too many names. -/
def key? (s : List Char) : Option (List String × List Char) :=
  (keyFrom? [] s).filter fun (names, _) => names.length ≤ depthLimit

/-! ## Values -/

/-- The values of a list after its bracket. Those read stand last first. -/
def items? (value? : List Char → Option (Setting × List Char)) (done : List Setting)
    (s : List Char) : Option (List Setting × List Char) :=
  match skipLines? false s with
  | none => none
  | some (']' :: rest) => some (done.reverse, rest)
  | some s' =>
    match value? s' with
    | none => none
    | some (v, rest) =>
      match skipLines? false rest with
      | some (',' :: rest) =>
        if rest.length < s.length then items? value? (v :: done) rest else none
      | some (']' :: rest) => some ((v :: done).reverse, rest)
      | _ => none
termination_by s.length

/-- Sets the value of a key in a table. -/
def addKey? (key : List String) (v : Setting) (t : Table) : Option Table :=
  match key.getLast? with
  | some name => t.addPair? name v key.dropLast
  | none => none

/-- A key and its value, with what may stand before and after the parts passed over. -/
def pair? (skip : List Char → Option (List Char))
    (value? : List Char → Option (Setting × List Char)) (s : List Char) :
    Option ((List String × Setting) × List Char) := do
  let (key, rest) ← key? s
  match ← skip rest with
  | '=' :: rest =>
    let (v, rest) ← value? (← skip rest)
    return ((key, v), ← skip rest)
  | _ => none

/-- The pairs of a table that is a value, after its brace, added to those before them. -/
def pairs? (value? : List Char → Option (Setting × List Char)) (t : Table) (s : List Char) :
    Option (Table × List Char) :=
  match skipLines? false s with
  | none => none
  | some ('}' :: rest) => some (t, rest)
  | some s' =>
    match pair? (skipLines? false) value? s' with
    | none => none
    | some ((key, v), rest) =>
      match addKey? key v t, rest with
      | some t, ',' :: rest => if rest.length < s.length then pairs? value? t rest else none
      | some t, '}' :: rest => some (t, rest)
      | _, _ => none
termination_by s.length

/-- A date and a time may have a space between them. -/
def takeWord (s : List Char) : List Char × List Char :=
  let word := s.takeWhile isWordChar
  let rest := s.dropWhile isWordChar
  match date? word, rest with
  | some (_, []), ' ' :: c :: more =>
    if Text.isDigit c then
      (word ++ ' ' :: (c :: more).takeWhile isWordChar, (c :: more).dropWhile isWordChar)
    else (word, rest)
  | _, _ => (word, rest)

/-- A value that is no list and no table. -/
def single? (s : List Char) : Option (Setting × List Char) :=
  match s with
  | '"' :: _ | '\'' :: _ =>
    (quoted? s).map fun (text, rest) => (.text (String.ofList text), rest)
  | _ =>
    let (word, rest) := takeWord s
    (word? word).map fun v => (v, rest)

/-- A value, with lists and tables inside each other to a given depth. -/
def value? : Nat → List Char → Option (Setting × List Char)
  | depth + 1, '[' :: rest =>
    (items? (value? depth) [] rest).map fun (items, rest) => (.list items, rest)
  | depth + 1, '{' :: rest =>
    (pairs? (value? depth) [] rest).bind fun (t, rest) =>
      (Table.toSetting? t).map fun s => (s, rest)
  | _, s => single? s

/-! ## Lines -/

/-- The path of a heading after its brackets, up to the brackets that close it. -/
def heading? (closing : List Char) (s : List Char) : Option (List String × List Char) :=
  match key? (skipSpace s) with
  | some (key, rest) =>
    if closing.isPrefixOf rest then
      (endLine? (rest.drop closing.length)).map fun rest => (key, rest)
    else none
  | none => none

/-- Begins the table or the list of tables that a heading names. -/
def begin? (start : String → Table → Option Table) (key : List String) (root : Table) :
    Option Table :=
  match key.getLast? with
  | some name => root.within? (start name) key.dropLast
  | none => none

/-- One line: the path of the table that lines stand in, the whole file's table and what follows
the line. -/
def line? (current : List String) (root : Table) (s : List Char) :
    Option (List String × Table × List Char) :=
  match skipSpace s with
  | '[' :: '[' :: rest => do
    let (key, rest) ← heading? "]]".toList rest
    let root ← begin? Table.append? key root
    return (key, root, rest)
  | '[' :: rest => do
    let (key, rest) ← heading? "]".toList rest
    let root ← begin? Table.define? key root
    return (key, root, rest)
  | s =>
    match s with
    | [] | '\n' :: _ | '\r' :: _ | '#' :: _ =>
      (endLine? s).map fun rest => (current, root, rest)
    | _ => do
      let ((key, v), rest) ← pair? (fun s => some (skipSpace s)) (value? depthLimit) s
      let rest ← endLine? rest
      let root ← root.within? (addKey? key v) current
      return (current, root, rest)

/-- All lines from here on. -/
def lines? (current : List String) (root : Table) (s : List Char) : Option Table :=
  if s.isEmpty then some root
  else
    match line? current root s with
    | none => none
    | some (current, root, rest) =>
      if rest.length < s.length then lines? current root rest else none
termination_by s.length

/-- A file after the mark that may stand at its beginning. -/
def afterMark : List Char → List Char
  | '\ufeff' :: rest => rest
  | s => s

/-- The settings of a file. -/
def parse? (s : List Char) : Option (List (String × Setting)) :=
  match (lines? [] [] (afterMark s)).bind Table.toSetting? with
  | some (.table fields) => some fields
  | _ => none

end PaperSearch.Toml
