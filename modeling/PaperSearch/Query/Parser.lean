import PaperSearch.Query.Builder
import PaperSearch.Query.Token
import PaperSearch.Text.Percent

/-!
# Reading queries

A query text is read token by token with the builder's steps, so what is read keeps the builder's
rules: leading operators and empty groups are dropped, and a date range gets its `AND`.

* `Query.parse` reads a text.
* `Query.addWord` adds what one word says.
* `Query.ofTokens` is the part after the words are split.
-/

namespace PaperSearch.Query

open Time

/-- A text split at the first occurrence of a character. -/
def splitFirst? (separator : Char) : List Char → Option (List Char × List Char)
  | [] => none
  | c :: rest =>
    if c = separator then some ([], rest)
    else (splitFirst? separator rest).map fun (before, after) => (c :: before, after)

/-- The rest of a text after something it begins with. -/
def dropPrefix? : List Char → List Char → Option (List Char)
  | [], s => some s
  | _, [] => none
  | p :: ps, c :: cs => if p = c then dropPrefix? ps cs else none

/-- A text split at the first occurrence of another text. -/
def splitAt? (separator : List Char) : List Char → Option (List Char × List Char)
  | [] => if separator.isEmpty then some ([], []) else none
  | c :: rest =>
    match dropPrefix? separator (c :: rest) with
    | some after => some ([], after)
    | none => (splitAt? separator rest).map fun (before, after) => (c :: before, after)

def parseTimestamp (s : List Char) : Except ParseError Instant :=
  match Instant.ofWireDigits? s with
  | some t => .ok t
  | none => .error (.invalidTimestamp (String.ofList s))

/-- The text between the brackets that it begins and ends with. -/
def unbracket? (s : List Char) : Option (List Char) :=
  match s with
  | '[' :: rest => if rest.getLast? = some ']' then some rest.dropLast else none
  | _ => none

/-- Reads `[first TO last]`. -/
def parseDateRange (s : List Char) : Except ParseError (Instant × Instant) :=
  match (unbracket? s).bind (splitAt? " TO ".toList) with
  | none => .error (.invalidDateRange (String.ofList s))
  | some (first, last) => do
    let first ← parseTimestamp (Text.trim first)
    let last ← parseTimestamp (Text.trim last)
    return (first, last)

/-- Adds what a word says: an operator, a date range or a term. -/
def addWord (q : Query) (word : List Char) : Except ParseError Query :=
  match Operator.ofKeyword? word with
  | some op => .ok (q.operator op)
  | none =>
    match splitFirst? ':' word with
    | none => .error (.malformedToken (String.ofList word))
    | some (name, raw) =>
      if name.isEmpty then .error (.malformedToken (String.ofList word))
      else match DateField.ofName? name with
        | some field => (parseDateRange raw).map fun (first, last) => q.dateRange field first last
        | none =>
          match Field.parse (String.ofList name) with
          | .error e => .error e
          | .ok field =>
            match Text.Percent.decode? raw with
            | none => .error (.invalidEncoding (String.ofList raw))
            | some value => .ok (q.term field (String.ofList value))

/-- Adds what the tokens say to a query, within groups that are open around it, the innermost
first. -/
def addTokens (outer : List Query) (q : Query) : List Token → Except ParseError Query
  | [] => if outer.isEmpty then .ok q else .error .unbalancedParens
  | .opening :: rest => addTokens (q :: outer) .empty rest
  | .closing :: rest =>
    match outer with
    | [] => .error .unbalancedParens
    | around :: outer => addTokens outer (around.group q) rest
  | .word w :: rest =>
    match q.addWord w with
    | .ok q => addTokens outer q rest
    | .error e => .error e

/-- The query that a sequence of tokens says. -/
def ofTokens (tokens : List Token) : Except ParseError Query :=
  addTokens [] .empty tokens

/-- Reads a query text. -/
def parse (s : String) : Except ParseError Query :=
  match Token.scan s.toList with
  | .ok tokens => ofTokens tokens
  | .error e => .error e

def isValid (s : String) : Bool :=
  match parse s with
  | .ok _ => true
  | .error _ => false

end PaperSearch.Query
