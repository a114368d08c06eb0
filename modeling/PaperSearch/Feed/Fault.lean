import PaperSearch.Text.Quoted
import PaperSearch.Time.Rfc3339
import PaperSearch.Xml.Event

/-!
# Faults of a response

Why the body of a response gives no page.
-/

namespace PaperSearch.Feed

inductive Fault where
  /-- The document cannot be read on from a place in bytes. -/
  | markup (place : Nat) (fault : Xml.Fault)
  | text (fault : Xml.ReferenceFault)
  | tag (fault : Xml.AttributeFault)
  | invalidCount (value : String)
  | invalidTimestamp (value : String) (fault : Time.Rfc3339.Fault)
  | unterminatedEntry
  | other (message : String)
  deriving DecidableEq, Repr

/-- A text in quotes, as a message shows it. -/
def shown (s : String) : String :=
  String.ofList (Text.quoted s.toList)

def Fault.message : Fault → String
  | markup place fault =>
    "XML parsing error at position " ++ String.ofList (Text.decimal place) ++ ": " ++
      fault.message
  | text fault => "XML text error: " ++ fault.message
  | tag fault => "XML attribute error: " ++ fault.message
  | invalidCount value => "invalid count: " ++ shown value
  | invalidTimestamp value fault =>
    "invalid timestamp " ++ shown value ++ ": " ++ fault.message
  | unterminatedEntry => "unterminated entry element"
  | other message => message

end PaperSearch.Feed
