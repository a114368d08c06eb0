import PaperSearch.Xml.Markup

/-!
# Reading a document

The events of a document in order, up to its end or up to the first fault. End tags must name the
element that was opened last; elements may stay open at the end.

* `read` reads a document.
* `Reading.position` says where a fault was found, in bytes.
-/

namespace PaperSearch.Xml

/-- The events of a document, and why it was not read to its end. -/
structure Reading where
  events : List Event
  failure : Option Failure
  deriving Repr

/-- The reading with one event more in front. -/
def Reading.cons (event : Event) (r : Reading) : Reading :=
  { r with events := event :: r.events }

/-- The elements that are open after an event. -/
def nest (opened : List (List Char)) : Event → Except Fault (List (List Char))
  | .opening tag => .ok (tag.name :: opened)
  | .closing name =>
    match opened with
    | [] => .error (.unmatchedEnd (String.ofList name))
    | last :: others =>
      if name = last then .ok others
      else .error (.mismatchedEnd (String.ofList last) (String.ofList name))
  | _ => .ok opened

/-- Reads a document on, given the names of the elements that are open. -/
def readFrom (opened : List (List Char)) (s : List Char) : Reading :=
  match s with
  | [] => ⟨[], none⟩
  | c :: rest =>
    if c = '<' then
      match _piece : markup rest with
      | .error failure => ⟨[], some failure⟩
      | .ok (event, after) =>
        match nest opened event with
        | .error fault => ⟨[], some ⟨fault, after⟩⟩
        | .ok opened => .cons event (readFrom opened after)
    else
      .cons (.text (c :: rest.takeWhile fun d => d != '<'))
        (readFrom opened (rest.dropWhile fun d => d != '<'))
termination_by s.length
decreasing_by
  · have := markup_length _piece
    simp only [List.length_cons]; omega
  · have := Text.length_dropWhile_le (fun d => d != '<') rest
    simp only [List.length_cons]; omega

/-- A document without the byte order mark that may stand before it. -/
def withoutMark : List Char → List Char
  | [] => []
  | c :: rest => if c.toNat = 0xFEFF then rest else c :: rest

/-- The events of a document. -/
def read (document : List Char) : Reading :=
  readFrom [] (withoutMark document)

/-- How many bytes of a document had been read at a failure. -/
def Failure.position (f : Failure) (document : List Char) : Nat :=
  Text.byteLength (withoutMark document) - Text.byteLength f.rest

end PaperSearch.Xml
