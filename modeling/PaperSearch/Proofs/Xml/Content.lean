import PaperSearch.Proofs.Text.Cut
import PaperSearch.Xml.Reader

/-!
# Content

Well-formed content as a tree: text and pieces of markup in turns, with elements that hold content
in their turn. `Piece.write` and `Content.write` are the text of a tree and `Piece.events` and
`Content.events` its events, and reading the one gives the other: `readFrom_piece`,
`readFrom_content`.

`Valid` asks no more of a tree than that its markup ends where it is meant to end: no more of text
than that it holds no `<`, and of a tag that its name holds no punctuation of markup and that its
quotes are closed.
-/

namespace PaperSearch.Xml

/-! ## Trees -/

mutual

/-- A piece of markup with all that belongs to it. -/
inductive Piece where
  /-- An element between two tags; white space may stand before the end of the second. -/
  | element (tag : Tag) (content : Content) (gap : List Char)
  | empty (tag : Tag)
  | characters (s : List Char)
  | comment (s : List Char)
  | instruction (s : List Char)

/-- Text and pieces in turns. -/
inductive Content where
  | last (text : List Char)
  | next (text : List Char) (piece : Piece) (rest : Content)

end

mutual

/-- The text of a piece. -/
def Piece.write : Piece → List Char
  | .element tag content gap =>
    '<' :: (tag.content ++ '>' :: (content.write ++ '<' :: '/' :: (tag.name ++ gap ++ ['>'])))
  | .empty tag => '<' :: (tag.content ++ ['/', '>'])
  | .characters s => '<' :: '!' :: '[' :: ("CDATA[".toList ++ (s ++ "]]>".toList))
  | .comment s => '<' :: '!' :: '-' :: '-' :: (s ++ "-->".toList)
  | .instruction s => '<' :: '?' :: (s ++ "?>".toList)

/-- The text of content. -/
def Content.write : Content → List Char
  | .last text => text
  | .next text piece rest => text ++ (piece.write ++ rest.write)

end

/-- The event of text. There is none without text. -/
def textEvents (text : List Char) : List Event :=
  if text.isEmpty then [] else [.text text]

mutual

/-- The events of a piece. -/
def Piece.events : Piece → List Event
  | .element tag content _ => .opening tag :: (content.events ++ [.closing tag.name])
  | .empty tag => [.empty tag]
  | .characters s => [.characters s]
  | .comment _ => [.aside]
  | .instruction _ => [.aside]

/-- The events of content. -/
def Content.events : Content → List Event
  | .last text => textEvents text
  | .next text piece rest => textEvents text ++ (piece.events ++ rest.events)

end

/-! ## Validity -/

/-- A character that may stand in a name: no white space and no punctuation of markup. -/
def isNameChar (c : Char) : Bool :=
  !isSpace c && !"<>/!?=&'\"".toList.contains c

/-- The tag has a name, and the quotes of its attributes are closed. -/
structure Tag.Valid (t : Tag) : Prop where
  name_ne_nil : t.name ≠ []
  name_chars : ∀ c ∈ t.name, isNameChar c = true
  quotes : Text.quotesClose none t.content = true

mutual

/-- The markup of the piece ends where it is meant to end. -/
def Piece.Valid : Piece → Prop
  | .element tag content gap =>
    tag.Valid ∧ tag.content.getLast? ≠ some '/' ∧ content.Valid ∧ ∀ c ∈ gap, isSpace c = true
  | .empty tag => tag.Valid
  | .characters s => ¬ "]]>".toList <:+: s
  | .comment s => ¬ "-->".toList <:+: s
  | .instruction s => ¬ "?>".toList <:+: '?' :: s

/-- The markup in the content ends where it is meant to end, and its text holds none. -/
def Content.Valid : Content → Prop
  | .last text => '<' ∉ text
  | .next text piece rest => '<' ∉ text ∧ piece.Valid ∧ rest.Valid

end

instance (t : Tag) : Decidable t.Valid :=
  decidable_of_iff (t.name ≠ [] ∧ (∀ c ∈ t.name, isNameChar c = true) ∧
      Text.quotesClose none t.content = true)
    ⟨fun h => ⟨h.1, h.2.1, h.2.2⟩, fun h => ⟨h.name_ne_nil, h.name_chars, h.quotes⟩⟩

mutual

def Piece.decidableValid : (piece : Piece) → Decidable piece.Valid
  | .element tag content gap =>
    haveI := content.decidableValid
    inferInstanceAs (Decidable (tag.Valid ∧ tag.content.getLast? ≠ some '/' ∧ content.Valid ∧
      ∀ c ∈ gap, isSpace c = true))
  | .empty tag => inferInstanceAs (Decidable tag.Valid)
  | .characters s => inferInstanceAs (Decidable ¬ "]]>".toList <:+: s)
  | .comment s => inferInstanceAs (Decidable ¬ "-->".toList <:+: s)
  | .instruction s => inferInstanceAs (Decidable ¬ "?>".toList <:+: '?' :: s)

def Content.decidableValid : (content : Content) → Decidable content.Valid
  | .last text => inferInstanceAs (Decidable ('<' ∉ text))
  | .next text piece rest =>
    haveI := piece.decidableValid
    haveI := rest.decidableValid
    inferInstanceAs (Decidable ('<' ∉ text ∧ piece.Valid ∧ rest.Valid))

end

instance : DecidablePred Piece.Valid := Piece.decidableValid

/-! ## Reading on -/

/-- The reading that goes on with these events in front. -/
def Reading.after (events : List Event) (r : Reading) : Reading :=
  { r with events := events ++ r.events }

theorem Reading.after_after (events events' : List Event) (r : Reading) :
    (r.after events').after events = r.after (events ++ events') := by
  simp [after]

variable {opened opened' : List (List Char)} {s after : List Char} {event : Event}

theorem readFrom_markup (h : markup s = .ok (event, after))
    (hnest : nest opened event = .ok opened') :
    readFrom opened ('<' :: s) = (readFrom opened' after).after [event] := by
  rw [readFrom, if_pos rfl]
  split
  · rename_i failure hfailed
    cases h.symm.trans hfailed
  · rename_i event' after' hread
    cases h.symm.trans hread
    simp only [hnest]
    rfl

/-- Text is read up to the next markup. -/
theorem readFrom_text {text : List Char} (h : '<' ∉ text) {rest : List Char}
    (hrest : ∀ c ∈ rest.head?, c = '<') :
    readFrom opened (text ++ rest) = (readFrom opened rest).after (textEvents text) := by
  cases text with
  | nil => rfl
  | cons c text =>
    have hc : c ≠ '<' := fun heq => h (heq ▸ List.mem_cons_self)
    have htext : ∀ d ∈ text, (d != '<') = true := by
      intro d hd
      rw [bne_iff_ne]
      rintro rfl
      exact h (List.mem_cons_of_mem c hd)
    have hmarkup : ∀ d ∈ rest.head?, (d != '<') = false := by
      intro d hd
      rw [hrest d hd]
      rfl
    rw [List.cons_append, readFrom, if_neg hc, Text.takeWhile_append_of_forall htext hmarkup,
      Text.dropWhile_append_of_forall htext hmarkup]
    rfl

/-! ## Tags -/

theorem isNameChar_iff {c : Char} : isNameChar c = true ↔
    isSpace c = false ∧ c ≠ '<' ∧ c ≠ '>' ∧ c ≠ '/' ∧ c ≠ '!' ∧ c ≠ '?' ∧ c ≠ '=' ∧ c ≠ '&' ∧
      c ≠ '\'' ∧ c ≠ '"' := by
  simp [isNameChar]

namespace Tag

/-- A valid tag begins with a character of its name. -/
theorem Valid.exists_cons {t : Tag} (h : t.Valid) :
    ∃ c rest, t.content = c :: rest ∧ isNameChar c = true := by
  obtain ⟨hne, hchars, -⟩ := h
  unfold name at hne hchars
  cases hcontent : t.content with
  | nil =>
    rw [hcontent] at hne
    exact absurd rfl hne
  | cons c rest =>
    rw [hcontent, List.takeWhile_cons] at hne hchars
    split at hne
    · rename_i hspace
      rw [if_pos hspace] at hchars
      exact ⟨c, rest, rfl, hchars c List.mem_cons_self⟩
    · exact absurd rfl hne

end Tag

/-- Markup that begins with neither `!` nor `?` is a tag. -/
theorem markup_eq_closed {c : Char} (hc : c ≠ '!' ∧ c ≠ '?') (s : List Char) :
    markup (c :: s) =
      closed (Text.cutUnquoted? none (c :: s)) .unclosedTag
        fun content => .ok (.ofTag content) := by
  unfold markup
  split
  all_goals simp_all

theorem markup_tag {content : List Char} (hquotes : Text.quotesClose none content = true)
    (hne : content ≠ []) (hfirst : ∀ c ∈ content.head?, c ≠ '!' ∧ c ≠ '?') (rest : List Char) :
    markup (content ++ '>' :: rest) = .ok (.ofTag content, rest) := by
  have hcut := Text.cutUnquoted?_append hquotes rest
  cases content with
  | nil => exact absurd rfl hne
  | cons c content =>
    rw [List.cons_append] at hcut ⊢
    rw [markup_eq_closed (hfirst c rfl), hcut]
    rfl

namespace Tag

variable {t : Tag}

theorem Valid.head (h : t.Valid) : ∀ c ∈ t.content.head?, c ≠ '/' ∧ c ≠ '!' ∧ c ≠ '?' := by
  obtain ⟨c, rest, hcontent, hc⟩ := h.exists_cons
  obtain ⟨-, -, -, hslash, hbang, hquestion, -⟩ := isNameChar_iff.mp hc
  rw [hcontent]
  rintro d ⟨⟩
  exact ⟨hslash, hbang, hquestion⟩

theorem Valid.content_ne_nil (h : t.Valid) : t.content ≠ [] := by
  obtain ⟨c, rest, hcontent, -⟩ := h.exists_cons
  rw [hcontent]
  exact List.cons_ne_nil c rest

end Tag

theorem ofTag_of_getLast? {content : List Char} (hfirst : ∀ c ∈ content.head?, c ≠ '/')
    (hlast : content.getLast? ≠ some '/') : Event.ofTag content = .opening ⟨content⟩ := by
  unfold Event.ofTag
  split
  · rename_i name
    exact absurd rfl (hfirst '/' rfl)
  · split
    · rename_i reversed hreverse
      rw [List.getLast?_eq_head?_reverse, hreverse] at hlast
      exact absurd rfl hlast
    · rfl

theorem ofTag_concat {content : List Char} (hne : content ≠ [])
    (hfirst : ∀ c ∈ content.head?, c ≠ '/') :
    Event.ofTag (content ++ ['/']) = .empty ⟨content⟩ := by
  cases content with
  | nil => exact absurd rfl hne
  | cons c content =>
    have hc : c ≠ '/' := hfirst c rfl
    unfold Event.ofTag
    split
    · rename_i name heq
      exact absurd (List.cons.inj heq).1 hc
    · simp

theorem trimEnd_append {name gap : List Char} (hne : name ≠ [])
    (hname : ∀ c ∈ name.getLast?, isSpace c = false) (hgap : ∀ c ∈ gap, isSpace c = true) :
    trimEnd (name ++ gap) = name := by
  have hdrop : (name ++ gap).reverse.dropWhile isSpace = name.reverse := by
    rw [List.reverse_append,
      List.dropWhile_append_of_pos fun c hc => hgap c (List.mem_reverse.mp hc)]
    cases hreverse : name.reverse with
    | nil => rfl
    | cons c rest =>
      have hc : isSpace c = false := by
        apply hname
        rw [List.getLast?_eq_head?_reverse, hreverse]
        rfl
      rw [List.dropWhile_cons, if_neg (by simp [hc])]
  unfold trimEnd
  rw [hdrop]
  split
  · rename_i hnil
    exact absurd (List.reverse_eq_nil_iff.mp hnil) hne
  · exact List.reverse_reverse name

/-! ## Pieces read -/

section

variable {opened : List (List Char)} {tag : Tag}

theorem markup_opening (h : tag.Valid) (hlast : tag.content.getLast? ≠ some '/')
    (rest : List Char) : markup (tag.content ++ '>' :: rest) = .ok (.opening tag, rest) := by
  rw [markup_tag h.quotes h.content_ne_nil (fun c hc => (h.head c hc).2),
    ofTag_of_getLast? (fun c hc => (h.head c hc).1) hlast]

theorem markup_empty (h : tag.Valid) (rest : List Char) :
    markup (tag.content ++ '/' :: '>' :: rest) = .ok (.empty tag, rest) := by
  have hquotes : Text.quotesClose none (tag.content ++ ['/']) = true := by
    rw [Text.quotesClose_append h.quotes]
    rfl
  have hhead : (tag.content ++ ['/']).head? = tag.content.head? := by
    obtain ⟨c, rest, hcontent, -⟩ := h.exists_cons
    rw [hcontent]
    rfl
  have hmarkup := markup_tag hquotes (List.append_ne_nil_of_right_ne_nil _ (List.cons_ne_nil _ _))
    (by rw [hhead]; exact fun c hc => (h.head c hc).2) rest
  rwa [List.append_assoc, ofTag_concat h.content_ne_nil fun c hc => (h.head c hc).1] at hmarkup

theorem markup_closing (h : tag.Valid) {gap : List Char} (hgap : ∀ c ∈ gap, isSpace c = true)
    (rest : List Char) :
    markup ('/' :: (tag.name ++ gap ++ '>' :: rest)) = .ok (.closing tag.name, rest) := by
  have hchar : ∀ c ∈ '/' :: (tag.name ++ gap), c ≠ '>' ∧ c ≠ '\'' ∧ c ≠ '"' := by
    intro c hc
    rw [List.mem_cons, List.mem_append] at hc
    rcases hc with rfl | hc | hc
    · decide
    · obtain ⟨-, -, hclose, -, -, -, -, -, hsingle, hdouble⟩ :=
        isNameChar_iff.mp (h.name_chars c hc)
      exact ⟨hclose, hsingle, hdouble⟩
    · refine ⟨?_, ?_, ?_⟩ <;>
        · rintro rfl
          exact absurd (hgap _ hc) (by decide)
  have hlast : ∀ c ∈ tag.name.getLast?, isSpace c = false := fun c hc =>
    (isNameChar_iff.mp (h.name_chars c (List.mem_of_getLast? hc))).1
  have hmarkup := markup_tag (Text.quotesClose_of_forall hchar) (List.cons_ne_nil _ _)
    (by rintro c ⟨⟩; decide) rest
  rwa [Event.ofTag, trimEnd_append h.name_ne_nil hlast hgap] at hmarkup

theorem markup_characters {s : List Char} (h : ¬ "]]>".toList <:+: s) (rest : List Char) :
    markup ('!' :: '[' :: ("CDATA[".toList ++ (s ++ "]]>".toList)) ++ rest) =
      .ok (.characters s, rest) := by
  have hinfix : ¬ [']', ']'] ++ ['>'] <:+: "[CDATA[".toList ++ s := by
    simpa [List.infix_cons_iff, List.cons_prefix_cons] using h
  have hcut := Text.cutAtMark?_append (by decide) hinfix rest
  have hmarkup : markup ('!' :: '[' :: ("CDATA[".toList ++ (s ++ "]]>".toList)) ++ rest) =
      closed (Text.cutAtMark? ([']', ']'] ++ ['>'])
        ("[CDATA[".toList ++ s ++ ([']', ']'] ++ ['>'] ++ rest)))
        .unclosedCharacters characters := by
    simp [markup]
  rw [hmarkup, hcut]
  simp [closed, characters]

theorem markup_comment {s : List Char} (h : ¬ "-->".toList <:+: s) (rest : List Char) :
    markup ('!' :: '-' :: '-' :: (s ++ "-->".toList) ++ rest) = .ok (.aside, rest) := by
  have hinfix : ¬ ['-', '-'] ++ ['>'] <:+: s := h
  have hcut := Text.cutAtMark?_append (by decide) hinfix rest
  have hmarkup : markup ('!' :: '-' :: '-' :: (s ++ "-->".toList) ++ rest) =
      closed (Text.cutAtMark? (['-', '-'] ++ ['>']) (s ++ (['-', '-'] ++ ['>'] ++ rest)))
        .unclosedComment fun _ => .ok .aside := by
    simp [markup]
  rw [hmarkup, hcut]
  rfl

theorem markup_instruction {s : List Char} (h : ¬ "?>".toList <:+: '?' :: s) (rest : List Char) :
    markup ('?' :: (s ++ "?>".toList) ++ rest) = .ok (.aside, rest) := by
  have hinfix : ¬ ['?'] ++ ['>'] <:+: '?' :: s := h
  have hcut := Text.cutAtMark?_append (by decide) hinfix rest
  have hmarkup : markup ('?' :: (s ++ "?>".toList) ++ rest) =
      closed (Text.cutAtMark? (['?'] ++ ['>']) ('?' :: s ++ (['?'] ++ ['>'] ++ rest)))
        .unclosedInstruction instruction := by
    simp [markup]
  rw [hmarkup, hcut]
  rfl

theorem readFrom_empty (h : tag.Valid) (rest : List Char) :
    readFrom opened ((Piece.empty tag).write ++ rest) =
      (readFrom opened rest).after (Piece.empty tag).events := by
  have hnest : nest opened (.empty tag) = .ok opened := rfl
  have hmarkup := readFrom_markup (markup_empty h rest) hnest
  simpa [Piece.write, Piece.events] using hmarkup

/-- An element is read as its events when its content is, before its end tag. -/
theorem readFrom_element {content : Content} {gap rest : List Char}
    (h : (Piece.element tag content gap).Valid)
    (hcontent : ∀ rest, (∀ c ∈ rest.head?, c = '<') →
      readFrom (tag.name :: opened) (content.write ++ rest) =
        (readFrom (tag.name :: opened) rest).after content.events) :
    readFrom opened ((Piece.element tag content gap).write ++ rest) =
      (readFrom opened rest).after (Piece.element tag content gap).events := by
  obtain ⟨htag, hlast, -, hgap⟩ := h
  have hinner := hcontent ('<' :: '/' :: (tag.name ++ gap ++ '>' :: rest)) (by rintro c ⟨⟩; rfl)
  have hclosed : nest (tag.name :: opened) (.closing tag.name) = .ok opened := if_pos rfl
  have hopened : nest opened (.opening tag) = .ok (tag.name :: opened) := rfl
  rw [readFrom_markup (markup_closing htag hgap rest) hclosed, Reading.after_after] at hinner
  have hopening := readFrom_markup (markup_opening htag hlast
    (content.write ++ '<' :: '/' :: (tag.name ++ gap ++ '>' :: rest))) hopened
  rw [hinner, Reading.after_after] at hopening
  simpa [Piece.write, Piece.events] using hopening

end

mutual

/-- A piece is read as its events, whatever stands around it. -/
theorem readFrom_piece : ∀ (piece : Piece) (opened : List (List Char)) (rest : List Char),
    piece.Valid →
      readFrom opened (piece.write ++ rest) = (readFrom opened rest).after piece.events
  | .element _ content _, _, _, h =>
    readFrom_element h fun rest => readFrom_content content _ rest h.2.2.1
  | .empty _, _, rest, h => readFrom_empty h rest
  | .characters _, _, rest, h => readFrom_markup (markup_characters h rest) rfl
  | .comment _, _, rest, h => readFrom_markup (markup_comment h rest) rfl
  | .instruction _, _, rest, h => readFrom_markup (markup_instruction h rest) rfl

/-- Content is read as its events where markup or nothing follows. -/
theorem readFrom_content : ∀ (content : Content) (opened : List (List Char)) (rest : List Char),
    content.Valid → (∀ c ∈ rest.head?, c = '<') →
      readFrom opened (content.write ++ rest) = (readFrom opened rest).after content.events
  | .last _, _, _, h, hrest => readFrom_text h hrest
  | .next text piece content, opened, rest, h, hrest => by
    have hfirst : ∀ c ∈ (piece.write ++ (content.write ++ rest)).head?, c = '<' := by
      cases piece <;> rintro c ⟨⟩ <;> rfl
    rw [Content.write, Content.events, List.append_assoc, List.append_assoc,
      readFrom_text h.1 hfirst, readFrom_piece piece opened _ h.2.1,
      readFrom_content content opened rest h.2.2 hrest, Reading.after_after,
      Reading.after_after, List.append_assoc]

end

/-- A document that consists of one piece is read as its events. -/
theorem read_write {piece : Piece} (h : piece.Valid) : read piece.write = ⟨piece.events, none⟩ := by
  have hread := readFrom_piece piece [] [] h
  have hmark : withoutMark piece.write = piece.write := by
    cases piece <;> rfl
  rw [List.append_nil] at hread
  rw [read, hmark, hread, readFrom, Reading.after, List.append_nil]

end PaperSearch.Xml
