import PaperSearch.Text.Digits
import PaperSearch.Toml.Line

/-!
# Quoted texts of a settings file

A text stands between double quotes, where a backslash begins an escape, or between single ones,
where nothing does. Between three quotes it may have several lines, whose ends are kept as they
are; a line end right after the first quotes is no part of it.

* `quoted?` reads a text at its first quote and gives what follows its last one.
-/

namespace PaperSearch.Toml

/-- The character after a backslash that stands for another one. -/
def escape? (c : Char) : Option Char :=
  if c = '"' ∨ c = '\\' then some c
  else if c = 'b' then some (Char.ofNat 8)
  else if c = 'e' then some (Char.ofNat 27)
  else if c = 't' then some '\t'
  else if c = 'n' then some '\n'
  else if c = 'f' then some (Char.ofNat 12)
  else if c = 'r' then some '\r'
  else none

/-- The character with a number in hexadecimal digits. -/
def scalar? (digits : List Char) : Option Char := do
  let values ← digits.mapM Text.hexValue?
  let n := values.foldl (fun n d => 16 * n + d) 0
  if n.isValidChar then some (Char.ofNat n) else none

/-- A text of one line after its double quote. What has been read stands last character first. -/
def basic? (done : List Char) : List Char → Option (List Char × List Char)
  | [] => none
  | '"' :: rest => some (done.reverse, rest)
  | '\\' :: 'x' :: a :: b :: rest =>
    match scalar? [a, b] with
    | some x => basic? (x :: done) rest
    | none => none
  | '\\' :: 'u' :: a :: b :: c :: d :: rest =>
    match scalar? [a, b, c, d] with
    | some x => basic? (x :: done) rest
    | none => none
  | '\\' :: 'U' :: a :: b :: c :: d :: e :: f :: g :: h :: rest =>
    match scalar? [a, b, c, d, e, f, g, h] with
    | some x => basic? (x :: done) rest
    | none => none
  | '\\' :: c :: rest =>
    match escape? c with
    | some x => basic? (x :: done) rest
    | none => none
  | c :: rest => if isPlain c then basic? (c :: done) rest else none

/-- A text of one line after its single quote. -/
def literal? (done : List Char) : List Char → Option (List Char × List Char)
  | [] => none
  | c :: rest =>
    if c = '\'' then some (done.reverse, rest)
    else if isPlain c then literal? (c :: done) rest
    else none

/-- Three quotes end a text; up to two more before them belong to it. -/
def closing (quote : Char) (done rest : List Char) : List Char × List Char :=
  match rest with
  | a :: b :: rest =>
    if a = quote ∧ b = quote then ((quote :: quote :: done).reverse, rest)
    else if a = quote then ((quote :: done).reverse, b :: rest)
    else (done.reverse, a :: b :: rest)
  | [a] => if a = quote then ((quote :: done).reverse, []) else (done.reverse, [a])
  | [] => (done.reverse, [])

/-- Does a line end here, spaces apart? -/
def endsLine (s : List Char) : Bool :=
  (lineEnd? (skipSpace s)).isSome

/-- A text of several lines after its double quotes. After a backslash at the end of a line, all
blanks are passed over. -/
def basicLines? (skipping : Bool) (done : List Char) : List Char → Option (List Char × List Char)
  | [] => none
  | '"' :: '"' :: '"' :: rest => some (closing '"' done rest)
  | '\\' :: 'x' :: a :: b :: rest =>
    match scalar? [a, b] with
    | some x => basicLines? false (x :: done) rest
    | none => none
  | '\\' :: 'u' :: a :: b :: c :: d :: rest =>
    match scalar? [a, b, c, d] with
    | some x => basicLines? false (x :: done) rest
    | none => none
  | '\\' :: 'U' :: a :: b :: c :: d :: e :: f :: g :: h :: rest =>
    match scalar? [a, b, c, d, e, f, g, h] with
    | some x => basicLines? false (x :: done) rest
    | none => none
  | '\\' :: c :: rest =>
    match escape? c with
    | some x => basicLines? false (x :: done) rest
    | none => if endsLine (c :: rest) then basicLines? true done rest else none
  | '\r' :: '\n' :: rest =>
    basicLines? skipping (if skipping then done else '\n' :: '\r' :: done) rest
  | c :: rest =>
    if skipping && (isSpace c || c == '\n') then basicLines? true done rest
    else if isPlain c || c == '\n' then basicLines? false (c :: done) rest
    else none

/-- A text of several lines after its single quotes. -/
def literalLines? (done : List Char) : List Char → Option (List Char × List Char)
  | [] => none
  | '\'' :: '\'' :: '\'' :: rest => some (closing '\'' done rest)
  | '\r' :: '\n' :: rest => literalLines? ('\n' :: '\r' :: done) rest
  | c :: rest => if isPlain c || c == '\n' then literalLines? (c :: done) rest else none

/-- A text after the quotes that begin it, without a line end right after them. -/
def afterQuotes (s : List Char) : List Char :=
  (lineEnd? s).getD s

/-- A quoted text of one line. -/
def quotedLine? : List Char → Option (List Char × List Char)
  | '"' :: rest => basic? [] rest
  | '\'' :: rest => literal? [] rest
  | _ => none

/-- A quoted text. -/
def quoted? : List Char → Option (List Char × List Char)
  | '"' :: '"' :: '"' :: rest => basicLines? false [] (afterQuotes rest)
  | '\'' :: '\'' :: '\'' :: rest => literalLines? [] (afterQuotes rest)
  | s => quotedLine? s

end PaperSearch.Toml
