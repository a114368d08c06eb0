import PaperSearch.Json.Basic
import PaperSearch.Text.Digits

/-!
# Writing JSON

* `Json.compact` writes a value without white space.
* `Json.pretty` writes each item and each field on a line of its own, two spaces further in than
  the value it belongs to.
-/

namespace PaperSearch.Json

def hexDigit (n : Nat) : Char :=
  if n < 10 then Char.ofNat (48 + n) else Char.ofNat (87 + n)

/-- A character inside a string: quote, backslash and control characters are escaped. -/
def escapeChar (c : Char) : List Char :=
  if c = '"' then ['\\', '"']
  else if c = '\\' then ['\\', '\\']
  else if c = '\n' then ['\\', 'n']
  else if c = '\r' then ['\\', 'r']
  else if c = '\t' then ['\\', 't']
  else if c.toNat = 8 then ['\\', 'b']
  else if c.toNat = 12 then ['\\', 'f']
  else if c.toNat < 32 then
    ['\\', 'u', '0', '0', hexDigit (c.toNat / 16), hexDigit (c.toNat % 16)]
  else [c]

def quote (s : String) : List Char :=
  '"' :: s.toList.flatMap escapeChar ++ ['"']

def integer (n : Int) : List Char :=
  if n < 0 then '-' :: Text.decimal n.natAbs else Text.decimal n.natAbs

def scalar : Json → List Char
  | null => "null".toList
  | bool true => "true".toList
  | bool false => "false".toList
  | int n => integer n
  | decimal negative mantissa exponent =>
    (if negative then ['-'] else []) ++ Text.decimal mantissa ++ 'e' :: integer exponent
  | str s => quote s
  | arr _ => ['[', ']']
  | obj _ => ['\x7b', '\x7d']

mutual

def compact : Json → List Char
  | arr items => '[' :: compactItems items ++ [']']
  | obj fields => '\x7b' :: compactFields fields ++ ['\x7d']
  | null => scalar null
  | bool b => scalar (bool b)
  | int n => scalar (int n)
  | decimal negative mantissa exponent => scalar (decimal negative mantissa exponent)
  | str s => scalar (str s)

def compactItems : List Json → List Char
  | [] => []
  | [item] => item.compact
  | item :: rest => item.compact ++ ',' :: compactItems rest

def compactFields : List (String × Json) → List Char
  | [] => []
  | [(name, value)] => quote name ++ ':' :: value.compact
  | (name, value) :: rest => quote name ++ ':' :: value.compact ++ ',' :: compactFields rest

end

/-- A new line, so many steps of two spaces in. -/
def newline (level : Nat) : List Char :=
  '\n' :: List.replicate (2 * level) ' '

mutual

/-- A value that stands so many levels in. -/
def prettyAt (level : Nat) : Json → List Char
  | arr [] => ['[', ']']
  | arr (item :: rest) =>
    '[' :: newline (level + 1) ++ prettyAt (level + 1) item ++ prettyItems (level + 1) rest ++
      newline level ++ [']']
  | obj [] => ['\x7b', '\x7d']
  | obj ((name, value) :: rest) =>
    '\x7b' :: newline (level + 1) ++ quote name ++ ':' :: ' ' :: prettyAt (level + 1) value ++
      prettyFields (level + 1) rest ++ newline level ++ ['\x7d']
  | null => scalar null
  | bool b => scalar (bool b)
  | int n => scalar (int n)
  | decimal negative mantissa exponent => scalar (decimal negative mantissa exponent)
  | str s => scalar (str s)

def prettyItems (level : Nat) : List Json → List Char
  | [] => []
  | item :: rest => ',' :: newline level ++ prettyAt level item ++ prettyItems level rest

def prettyFields (level : Nat) : List (String × Json) → List Char
  | [] => []
  | (name, value) :: rest =>
    ',' :: newline level ++ quote name ++ ':' :: ' ' :: prettyAt level value ++
      prettyFields level rest

end

def pretty (j : Json) : String :=
  String.ofList (prettyAt 0 j)

end PaperSearch.Json
