import PaperSearch.Query.Field

/-!
# Errors of query texts

Why a text is no query, with the part of the text concerned.
-/

namespace PaperSearch

inductive ParseError where
  | unknownField (name : String)
  | invalidTimestamp (text : String)
  | invalidDateRange (text : String)
  | unterminatedBracket (word : String)
  | unbalancedParens
  | malformedToken (word : String)
  | invalidEncoding (value : String)
  deriving DecidableEq, Repr

namespace ParseError

def message : ParseError → String
  | unknownField name => "Unknown field: " ++ name
  | invalidTimestamp text => "Invalid timestamp (expected YYYYMMDDhhmm): " ++ text
  | invalidDateRange text => "Invalid date range format: " ++ text
  | unterminatedBracket word => "Unterminated bracket in: " ++ word
  | unbalancedParens => "Unbalanced parentheses"
  | malformedToken word => "Malformed token: " ++ word
  | invalidEncoding value => "Invalid percent-encoding in: " ++ value

end ParseError

/-- The field with a code. -/
def Field.parse (s : String) : Except ParseError Field :=
  match ofCode? s.toList with
  | some field => .ok field
  | none => .error (.unknownField s)

/-- The date field with a name. -/
def DateField.parse (s : String) : Except ParseError DateField :=
  match ofName? s.toList with
  | some field => .ok field
  | none => .error (.unknownField s)

end PaperSearch
