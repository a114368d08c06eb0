import PaperSearch.Xml.Event

/-!
# Markup

Markup begins with `<`. What follows decides how far it runs: a tag to the first `>` outside
quotes, an instruction to `?>`, a comment to `-->`, character data to `]]>`, a document type to the
`>` that balances.

* `markup` reads one piece of markup, after its `<`.
* `markup_length` says that the rest is shorter, which ends every loop over a document.
-/

namespace PaperSearch.Xml

/-- A fault, and the text that was not read when it was found. -/
structure Failure where
  fault : Fault
  rest : List Char
  deriving DecidableEq, Repr

/-- A text without the white space at its end; white space alone stays as it is. -/
def trimEnd (s : List Char) : List Char :=
  match s.reverse.dropWhile isSpace with
  | [] => s
  | trimmed => trimmed.reverse

/-- The event of a tag, given what stands between `<` and `>`. -/
def Event.ofTag (content : List Char) : Event :=
  match content with
  | '/' :: name => .closing (trimEnd name)
  | _ =>
    match content.reverse with
    | '/' :: reversed => .empty ⟨reversed.reverse⟩
    | _ => .opening ⟨content⟩

/-- A piece of markup: what its content gives, or the fault, at the end of the text if the piece
is not closed. -/
def closed (cut : Option (List Char × List Char)) (missing : Fault)
    (event : List Char → Except Fault Event) : Except Failure (Event × List Char) :=
  match cut with
  | none => .error ⟨missing, []⟩
  | some (content, rest) =>
    match event content with
    | .ok e => .ok (e, rest)
    | .error fault => .error ⟨fault, rest⟩

/-- The instruction between `<` and `?>`, its first `?` included. -/
def instruction (content : List Char) : Except Fault Event :=
  if content.isEmpty then .error .unclosedInstruction else .ok .aside

/-- The character data between `<!` and `]]>`. -/
def characters (content : List Char) : Except Fault Event :=
  if "[CDATA[".toList.isPrefixOf content then .ok (.characters (content.drop 7))
  else .error .unclosedCharacters

/-- The document type between `<!` and `>`. -/
def doctype (content : List Char) : Except Fault Event :=
  if (content.take 7).map Char.toUpper = "DOCTYPE".toList then
    if (content.drop 7).all isSpace then .error .unnamedDoctype else .ok .aside
  else .error .unclosedDoctype

/-- One piece of markup after its `<`, and the text after it. -/
def markup (s : List Char) : Except Failure (Event × List Char) :=
  match s with
  | '!' :: '[' :: _ => closed (Text.cutAtMark? "]]>".toList s.tail) .unclosedCharacters characters
  | '!' :: '-' :: second :: rest =>
    closed (Text.cutAtMark? "-->".toList rest) .unclosedComment fun _ =>
      if second = '-' then .ok .aside else .error .unclosedComment
  | ['!', '-'] => .error ⟨.unclosedComment, []⟩
  | '!' :: 'D' :: _ | '!' :: 'd' :: _ =>
    closed (Text.cutBalanced? 0 s.tail) .unclosedDoctype doctype
  | '!' :: _ => .error ⟨.unknownMarkup, s⟩
  | '?' :: _ => closed (Text.cutAtMark? "?>".toList s) .unclosedInstruction instruction
  | _ => closed (Text.cutUnquoted? none s) .unclosedTag fun content => .ok (.ofTag content)

theorem closed_rest {cut : Option (List Char × List Char)} {missing : Fault}
    {event : List Char → Except Fault Event} {e : Event} {rest : List Char}
    (h : closed cut missing event = .ok (e, rest)) : ∃ content, cut = some (content, rest) := by
  unfold closed at h
  split at h
  · cases h
  · split at h
    · cases h; exact ⟨_, rfl⟩
    · cases h

theorem markup_length {s rest : List Char} {e : Event} (h : markup s = .ok (e, rest)) :
    rest.length < s.length := by
  unfold markup at h
  split at h
  · obtain ⟨_, cut⟩ := closed_rest h
    have := Text.cutAtMark?_length cut
    simp at *; omega
  · obtain ⟨_, cut⟩ := closed_rest h
    have := Text.cutAtMark?_length cut
    simp at *; omega
  · cases h
  · obtain ⟨_, cut⟩ := closed_rest h
    have := Text.cutBalanced?_length cut
    simp at *; omega
  · obtain ⟨_, cut⟩ := closed_rest h
    have := Text.cutBalanced?_length cut
    simp at *; omega
  · cases h
  · obtain ⟨_, cut⟩ := closed_rest h
    have := Text.cutAtMark?_length cut
    simp at *; omega
  · obtain ⟨_, cut⟩ := closed_rest h
    exact Text.cutUnquoted?_length cut

end PaperSearch.Xml
