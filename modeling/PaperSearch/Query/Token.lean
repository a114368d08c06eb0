import PaperSearch.Query.Field
import PaperSearch.Query.ParseError
import PaperSearch.Text.Blank

/-!
# Tokens of a query text

A query text is a sequence of words and parentheses. A word ends at a blank, except where it is a
field with its value: then a blank belongs to it as long as the next word does not start something
new. Nothing is special between brackets.

* `Token.scan` splits a text, and finds unbalanced parentheses and open brackets.
* `endsValue` looks ahead from a blank in a value.
-/

namespace PaperSearch

inductive Token where
  | word (text : List Char)
  | opening
  | closing
  deriving DecidableEq, Repr

namespace Token

/-- The text that a token was read from. -/
def text : Token → List Char
  | word w => w
  | opening => ['(']
  | closing => [')']

def isParen (c : Char) : Bool :=
  c == '(' || c == ')'

/-- Does a value end at a blank with this text after it? It does before an operator, a word with a
colon, a parenthesis and the end. -/
def endsValue (rest : List Char) : Bool :=
  match rest.dropWhile Text.isBlank with
  | [] => true
  | c :: cs =>
    isParen c ||
      let next := (c :: cs).takeWhile fun d => !Text.isBlank d && !isParen d
      (Operator.ofKeyword? next).isSome || next.contains ':'

/-- Where a scan stands in the text. -/
structure Position where
  /-- The word that is open, last character first. -/
  word : List Char
  /-- A colon has been read in the word. -/
  inValue : Bool
  /-- A bracket is open in the word. -/
  inBracket : Bool
  /-- How many parentheses are open. -/
  depth : Nat

namespace Position

def start : Position := ⟨[], false, false, 0⟩

/-- The tokens that the end of the open word gives: one, or none if no word is open. -/
def flush (p : Position) : List Token :=
  if p.word.isEmpty then [] else [.word p.word.reverse]

/-- The open word grows. -/
def grow (p : Position) (c : Char) : Position :=
  { p with word := c :: p.word }

/-- No word is open any more. -/
def close (p : Position) : Position :=
  { p with word := [], inValue := false }

end Position

/-- The tokens of a text from a position on. -/
def scanFrom (p : Position) : List Char → Except ParseError (List Token)
  | [] =>
    if p.inBracket then .error (.unterminatedBracket (String.ofList p.word.reverse))
    else if p.depth = 0 then .ok p.flush
    else .error .unbalancedParens
  | c :: rest =>
    if p.inBracket then
      scanFrom { p.grow c with inBracket := c != ']' } rest
    else if c = '(' then
      (scanFrom { p.close with depth := p.depth + 1 } rest).map fun ts =>
        p.flush ++ .opening :: ts
    else if c = ')' then
      if p.depth = 0 then .error .unbalancedParens
      else
        (scanFrom { p.close with depth := p.depth - 1 } rest).map fun ts =>
          p.flush ++ .closing :: ts
    else if c = '[' then
      scanFrom { p.grow c with inBracket := true } rest
    else if c = ':' then
      scanFrom { p.grow c with inValue := true } rest
    else if Text.isBlank c then
      if p.inValue && !endsValue rest then scanFrom (p.grow c) rest
      else (scanFrom p.close rest).map fun ts => p.flush ++ ts
    else scanFrom (p.grow c) rest

/-- The tokens of a query text. -/
def scan (s : List Char) : Except ParseError (List Token) :=
  scanFrom .start s

end Token
end PaperSearch
