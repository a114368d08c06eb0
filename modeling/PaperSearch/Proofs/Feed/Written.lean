import PaperSearch.Proofs.Feed.Writing

/-!
# Pages read back

A page is read back from every feed that it can be written as: `decode_written`.

Each piece turns the state of the decoder into the next, whatever text is pending (`Turns`). In an
author the pieces turn the author (`turns_authorPart`), in an entry the entry (`turns_entryPart`)
and in the feed the page (`turns_pagePart`). An element that holds parts sets all of them, in
whatever order they stand (`turns_parts`).
-/

namespace PaperSearch

/-! ## Texts -/

namespace Text

theorem wordsFrom_of_forall {s : List Char} (h : ∀ c ∈ s, isBlank c = false) (word : List Char) :
    wordsFrom word s = if word = [] ∧ s = [] then [] else [word.reverse ++ s] := by
  induction s generalizing word with
  | nil => cases word <;> simp [wordsFrom]
  | cons c s ih =>
    rw [wordsFrom, if_neg (by simp [h c List.mem_cons_self]),
      ih fun d hd => h d (List.mem_cons_of_mem c hd)]
    simp

/-- A text without blanks is one word or none. -/
theorem collapse_of_forall {s : List Char} (h : ∀ c ∈ s, isBlank c = false) : collapse s = s := by
  rw [collapse, words, wordsFrom_of_forall h]
  cases s with
  | nil => rfl
  | cons c s => simp [join]

end Text

namespace Feed

open Xml

/-! ## Turns -/

/-- What events make of a state, whatever text is pending before and behind them. -/
def Turns (events : List Event) (st st' : State) : Prop :=
  ∀ text, ∃ text', State.run { st with text } events = .ok { st' with text := text' }

/-- Pieces that turn one state into the next with white space between them. -/
theorem turns_content {α β : Type} {writes : α → Piece → Prop} (frame : β → State)
    {set : β → α → β} {written : List α} {pieces : List Piece} {content : Content}
    (hpart : ∀ part ∈ written, ∀ piece, writes part piece →
      ∀ b, Turns piece.events (frame b) (frame (set b part)))
    (hwrites : List.Forall₂ writes written pieces) (hspaced : Spaced pieces content) (b : β) :
    Turns content.events (frame b) (frame (written.foldl set b)) := by
  intro text
  induction hspaced generalizing written b text with
  | @last space hblank =>
    cases hwrites
    exact ⟨text ++ space, State.run_blank hblank _⟩
  | @next space piece pieces content hblank _ ih =>
    obtain ⟨part, others, hpiece, hothers, rfl⟩ := List.forall₂_cons_right_iff.mp hwrites
    obtain ⟨after, hafter⟩ := hpart part List.mem_cons_self piece hpiece b (text ++ space)
    obtain ⟨text', hrest⟩ :=
      ih (fun other hother => hpart other (List.mem_cons_of_mem part hother)) hothers
        (set b part) after
    refine ⟨text', ?_⟩
    rw [Content.events, State.run_append_of_run (State.run_blank hblank _)]
    exact (State.run_append_of_run hafter).trans hrest

/-- An element turns a state as its parts do between its tags. -/
theorem turns_parts {α β : Type} {name : String} {element : α → String}
    {writes : α → Piece → Prop} {parts : List α} {piece : Piece}
    (h : WritesParts name element writes parts piece) {frame : β → State} {set : β → α → β}
    (hpart : ∀ part ∈ parts, ∀ piece, writes part piece →
      ∀ b, Turns piece.events (frame b) (frame (set b part)))
    (hset : ∀ b p q, element p ≠ element q → set (set b p) q = set (set b q) p)
    {st st' : State} {b : β}
    (hopen : ∀ (tag : Tag) text, tag.localName = name.toList →
      State.begin { st with text } tag = .ok { frame b with text := [] })
    (hclose : ∀ text, State.close { frame (parts.foldl set b) with text } name.toList =
      .ok { st' with text := [] }) :
    Turns piece.events st st' := by
  obtain ⟨hname, harranged, hwrites, hspaced⟩ := h
  intro text
  obtain ⟨pending, hcontent⟩ :=
    turns_content frame (fun part hmem => hpart part (harranged.mem hmem)) hwrites hspaced b []
  rw [foldl_eq_of_arranged hset harranged] at hcontent
  refine ⟨[], ?_⟩
  rw [State.run_element, hopen _ text hname]
  simp only [Except.bind]
  rw [hcontent, hname]
  exact hclose pending

/-! ### Texts -/

/-- The elements that do more than hold text. -/
def structural : List (List Char) :=
  ["entry".toList, "author".toList, "link".toList, "category".toList, "primary_category".toList]

theorem begin_text {tag : Tag} (h : tag.localName ∉ structural) (st : State) :
    st.begin tag = .ok { st with text := [] } := by
  simp only [structural, List.mem_cons, List.not_mem_nil, or_false, not_or] at h
  obtain ⟨hentry, hauthor, hlink, hcategory, hprimary⟩ := h
  rw [State.begin, if_neg hentry, if_neg fun hopen => hauthor hopen.1, State.readTag,
    if_neg hlink, if_neg hcategory, if_neg hprimary]

/-- A text is pending when its element ends. -/
theorem run_text {name : String} {s : List Char} {piece : Piece}
    (hname : name.toList ∉ structural) (h : WritesText name s piece) (st : State) :
    st.run piece.events = State.close { st with text := s } name.toList := by
  obtain ⟨heq⟩ := h
  rw [State.run_element, begin_text (by rw [heq]; exact hname)]
  simp only [Except.bind]
  rw [Content.events, State.run_textEvents (expand_escape s), heq]
  rfl

section Scenes

variable {name : String} {s : List Char} {piece : Piece} (hname : name.toList ∉ structural)
  (hs : Text.collapse s = s) (h : WritesText name s piece)

include hname hs h

theorem turns_authorText {a a' : Author} {page : Page} {e : Entry}
    (hset : State.closeInAuthor ⟨page, some e, some a, []⟩ a name.toList (String.ofList s) =
      ⟨page, some e, some a', []⟩) :
    Turns piece.events ⟨page, some e, some a, []⟩ ⟨page, some e, some a', []⟩ := by
  intro text
  refine ⟨[], ?_⟩
  rw [run_text hname h]
  show Except.ok (State.closeInAuthor ⟨page, some e, some a, []⟩ a name.toList
    (String.ofList (Text.collapse s))) = _
  rw [hs, hset]

theorem turns_entryText {e e' : Entry}
    (hset : State.withEntryElement e name.toList (String.ofList s) = .ok e') (page : Page) :
    Turns piece.events ⟨page, some e, none, []⟩ ⟨page, some e', none, []⟩ := by
  intro text
  refine ⟨[], ?_⟩
  have hentry : name.toList ≠ "entry".toList := fun heq => hname (heq ▸ List.mem_cons_self)
  rw [run_text hname h]
  show State.closeInEntry ⟨page, some e, none, []⟩ e name.toList
    (String.ofList (Text.collapse s)) = _
  rw [State.closeInEntry, if_neg hentry, hs, hset]
  rfl

theorem turns_pageText {page page' : Page}
    (hset : State.withPageElement page name.toList (String.ofList s) = .ok page') :
    Turns piece.events ⟨page, none, none, []⟩ ⟨page', none, none, []⟩ := by
  intro text
  refine ⟨[], ?_⟩
  rw [run_text hname h]
  show (State.withPageElement page name.toList (String.ofList (Text.collapse s))).map _ = _
  rw [hs, hset]
  rfl

end Scenes

/-! ### Values -/

theorem nonEmpty?_of_ne {s : String} (h : s ≠ "") : nonEmpty? s = some s :=
  if_neg (by simpa using h)

theorem readCount_decimal (n : UInt64) :
    readCount (String.ofList (Text.decimal n.toNat)) = .ok n := by
  rw [readCount, String.toList_ofList, Text.count?_decimal]

theorem collapse_decimal (n : Nat) : Text.collapse (Text.decimal n) = Text.decimal n :=
  Text.collapse_of_forall fun _ hc => Text.isBlank_of_isDigit (Text.isDigit_of_mem_decimal hc)

theorem offset_of_mem_zones {zone : List Char} (h : zone ∈ zones) :
    Time.Rfc3339.offset (Time.Rfc3339.symbol (· == ':')) zone = .ok (0, []) ∧
      (∃ c rest, zone = c :: rest ∧ c ≠ '.' ∧ Text.isDigit c = false) ∧
      ∀ c ∈ zone, Text.isBlank c = false := by
  rcases List.mem_cons.mp h with rfl | h
  · exact ⟨rfl, ⟨'Z', [], rfl, by decide⟩, by decide⟩
  · rw [List.mem_singleton.mp h]
    exact ⟨rfl, ⟨'+', "00:00".toList, rfl, by decide⟩, by decide⟩

section Dates

variable {t : Time.Instant} {zone : List Char} (h : 0 ≤ t.date.year ∧ t.date.year ≤ 9999)
  (hzone : zone ∈ zones)

include h hzone

theorem readDate_stem : readDate (String.ofList (Time.Rfc3339.stem t ++ zone)) = .ok (some t) := by
  obtain ⟨hoffset, ⟨c, rest, rfl, hc⟩, -⟩ := offset_of_mem_zones hzone
  have hparse := Time.Rfc3339.parse_stem h.1 h.2 hoffset (by rintro c ⟨⟩; exact hc)
  have hne : ¬ (String.ofList (Time.Rfc3339.stem t ++ c :: rest)).isEmpty = true := by simp
  rw [readDate, if_neg hne, String.toList_ofList, hparse]

theorem collapse_stem :
    Text.collapse (Time.Rfc3339.stem t ++ zone) = Time.Rfc3339.stem t ++ zone := by
  refine Text.collapse_of_forall fun c hc => ?_
  rcases List.mem_append.mp hc with hc | hc
  · exact Time.Rfc3339.isBlank_of_mem_stem h.1 h.2 hc
  · exact (offset_of_mem_zones hzone).2.2 c hc

end Dates

theorem readAttribute_written {written : List Char} {attributes : Values} (hname : IsName written)
    (hnamed : attributes.Named) {name : String} {value : Option String}
    (h : attributes.get? name.toList = value.map String.toList) :
    readAttribute (Tag.withValues written attributes) name = .ok value := by
  rw [readAttribute, attribute?_withValues hname hnamed, h]
  cases value with
  | none => rfl
  | some value => simp

theorem readLink_written {written : List Char} {attributes : Values} (hname : IsName written)
    (hnamed : attributes.Named) {l : Link}
    (h : ∀ v ∈ [("href", some l.href), ("rel", l.rel), ("type", l.mediaType), ("title", l.title)],
      attributes.get? v.1.toList = v.2.map String.toList) :
    readLink (Tag.withValues written attributes) = .ok l := by
  have hread := fun v hv => readAttribute_written hname hnamed (h v hv)
  simp only [List.forall_mem_cons] at hread
  obtain ⟨hhref, hrel, htype, htitle, -⟩ := hread
  rw [readLink, hhref, hrel, htype, htitle]
  rfl

/-! ### Parts -/

theorem turns_authorPart {part : AuthorPart} (h : part.Normal) {piece : Piece}
    (hwrites : WritesAuthorPart part piece) (page : Page) (e : Entry) (a : Author) :
    Turns piece.events ⟨page, some e, some a, []⟩ ⟨page, some e, some (part.set a), []⟩ := by
  cases part with
  | name s =>
    refine turns_authorText (by decide) h hwrites ?_
    rw [String.ofList_toList]
    rfl
  | affiliation s =>
    refine turns_authorText (by decide) h.1 hwrites ?_
    rw [String.ofList_toList]
    show (⟨page, some e, some { a with affiliation := nonEmpty? s }, []⟩ : State) = _
    rw [nonEmpty?_of_ne h.2]
    rfl

theorem turns_author {a : Author} (h : a.Normal) {piece : Piece} (hwrites : WritesAuthor a piece)
    (page : Page) (e : Entry) :
    Turns piece.events ⟨page, some e, none, []⟩
      ⟨page, some { e with authors := e.authors ++ [a] }, none, []⟩ := by
  refine turns_parts (b := ⟨"", none⟩) hwrites
    (fun part hpart piece hpiece => turns_authorPart (h part hpart) hpiece page e)
    (fun a p q hne => AuthorPart.set_set hne a) (fun tag text htag => ?_) fun text => ?_
  · unfold State.begin
    rw [htag]
    rfl
  · rw [Author.foldl_parts]
    rfl

theorem turns_entryDate {name : String} (hname : name.toList ∉ structural) {t : Time.Instant}
    (h : 0 ≤ t.date.year ∧ t.date.year ≤ 9999) {piece : Piece} (hwrites : WritesDate name t piece)
    {e : Entry} (put : Option Time.Instant → Entry)
    (hput : ∀ value, State.withEntryElement e name.toList value = (readDate value).map put)
    (page : Page) :
    Turns piece.events ⟨page, some e, none, []⟩ ⟨page, some (put (some t)), none, []⟩ := by
  obtain ⟨zone, hzone, hwrites⟩ := hwrites
  refine turns_entryText hname (collapse_stem h hzone) hwrites ?_ page
  rw [hput, readDate_stem h hzone]
  rfl

/-- A tag without content leaves pending text alone. -/
theorem turns_empty {tag : Tag} {st st' : State}
    (h : ∀ text, State.readTag { st with text } tag = .ok { st' with text }) :
    Turns (Piece.empty tag).events st st' := by
  intro text
  refine ⟨text, ?_⟩
  show Except.bind (State.readTag { st with text } tag) _ = _
  rw [h]
  rfl

theorem exists_tag_of_writesCategory {name : String} {c : Category} {piece : Piece}
    (h : WritesCategory name c piece) : ∃ tag, piece = .empty tag ∧
      tag.localName = name.toList ∧ readAttribute tag "term" = .ok (some c.term) := by
  obtain ⟨hisName, hname, hnamed, hget⟩ := h
  have hterm := readAttribute_written hisName hnamed (hget ("term", some c.term) List.mem_cons_self)
  refine ⟨_, rfl, ?_, hterm⟩
  rw [localName_withValues hisName, hname]

theorem exists_tag_of_writesLink {l : Link} {piece : Piece} (h : WritesLink l piece) :
    ∃ tag, piece = .empty tag ∧ tag.localName = "link".toList ∧ readLink tag = .ok l := by
  obtain ⟨hisName, hname, hnamed, hget⟩ := h
  refine ⟨_, rfl, ?_, readLink_written hisName hnamed hget⟩
  rw [localName_withValues hisName, hname]

theorem turns_entryPart {part : EntryPart} (h : part.Normal) {piece : Piece}
    (hwrites : WritesEntryPart part piece) (page : Page) (e : Entry) :
    Turns piece.events ⟨page, some e, none, []⟩ ⟨page, some (part.set e), none, []⟩ := by
  cases part with
  | id s | title s | summary s =>
    refine turns_entryText (by decide) h hwrites ?_ page
    rw [String.ofList_toList]
    rfl
  | published t =>
    exact turns_entryDate (by decide) h hwrites (fun t => { e with published := t })
      (fun _ => rfl) page
  | updated t =>
    exact turns_entryDate (by decide) h hwrites (fun t => { e with updated := t })
      (fun _ => rfl) page
  | author a => exact turns_author h hwrites page e
  | category c | primaryCategory c =>
    obtain ⟨tag, rfl, hname, hread⟩ := exists_tag_of_writesCategory hwrites
    refine turns_empty fun text => ?_
    rw [State.readTag, hname, hread]
    rfl
  | link l =>
    obtain ⟨tag, rfl, hname, hread⟩ := exists_tag_of_writesLink hwrites
    refine turns_empty fun text => ?_
    rw [State.readTag, if_pos hname, hread]
    rfl
  | comment s | journalRef s | doi s =>
    refine turns_entryText (by decide) h.1 hwrites ?_ page
    rw [String.ofList_toList, EntryPart.set, ← nonEmpty?_of_ne h.2]
    rfl

theorem turns_entry {e : Entry} (h : e.Normal) {piece : Piece} (hwrites : WritesEntry e piece)
    (page : Page) :
    Turns piece.events ⟨page, none, none, []⟩
      ⟨{ page with entries := page.entries ++ [e] }, none, none, []⟩ := by
  refine turns_parts (b := Entry.default) hwrites
    (fun part hpart piece hpiece => turns_entryPart (h part hpart) hpiece page)
    (fun e p q hne => EntryPart.set_set hne e) (fun tag text htag => ?_) fun text => ?_
  · unfold State.begin
    rw [htag]
    rfl
  · rw [Entry.foldl_parts]
    rfl

theorem turns_pagePart {part : PagePart} (h : part.Normal) {piece : Piece}
    (hwrites : WritesPagePart part piece) (page : Page) :
    Turns piece.events ⟨page, none, none, []⟩ ⟨part.set page, none, none, []⟩ := by
  cases part with
  | title s | id s | updated s =>
    refine turns_pageText (by decide) h hwrites ?_
    rw [String.ofList_toList]
    rfl
  | total n | start n | perPage n =>
    refine turns_pageText (by decide) (collapse_decimal _) hwrites ?_
    show (readCount _).map _ = _
    rw [readCount_decimal]
    rfl
  | link l =>
    obtain ⟨tag, rfl, hname, hread⟩ := exists_tag_of_writesLink hwrites
    refine turns_empty fun text => ?_
    rw [State.readTag, if_pos hname, hread]
    rfl
  | entry e => exact turns_entry h hwrites page

/-- **Pages are read back** from every feed that they can be written as. -/
theorem decode_written {page : Page} (hparams : page.params = Params.default) (h : page.Normal) :
    (∃ document, WritesPage page document) ∧
      ∀ document, WritesPage page document → decode document = .ok page := by
  refine ⟨exists_writesPage page, ?_⟩
  rintro _ ⟨written, pieces, harranged, hpieces, hvalid, hname, hspaced⟩
  obtain ⟨text, hcontent⟩ := turns_content (fun page => ⟨page, none, none, []⟩)
    (fun part hmem piece hpiece => turns_pagePart (h part (harranged.mem hmem)) hpiece)
    hpieces hspaced Page.default []
  have hfold : written.foldl PagePart.set Page.default = page := by
    rw [foldl_eq_of_arranged (fun page p q hne => PagePart.set_set hne page) harranged,
      Page.foldl_parts hparams]
  rw [hfold] at hcontent
  have hrun : State.start.run _ = .ok ⟨page, none, none, text⟩ := hcontent
  rw [decode_feed hvalid hname, hrun]
  rfl

def noon : Time.Instant :=
  ⟨1609588800, 500000000, by decide, by decide, by decide, by decide⟩

def scatteredEntry : Entry :=
  { Entry.default with
    title := "x < y & \"z\""
    published := some noon
    authors := [⟨"N", some "U & V"⟩]
    categories := [⟨"cs.LO"⟩, ⟨" 'q' "⟩] }

def scatteredPage : Page :=
  { Page.default with
    total := 12
    links := [⟨"http://x/?a=1&b=2", some "self", none, none⟩]
    entries := [scatteredEntry] }

/-- An element with this in its start tag that holds the text. -/
def textElement (start s : String) : Piece :=
  .element ⟨start.toList⟩ (.last (escape s.toList)) [' ']

/-- The entry with its author before its identifier and a category at either end. -/
def scatteredPiece : Piece :=
  .element ⟨"a:entry".toList⟩
    (spacedBy ['\n']
      [.empty (Tag.withValues "category".toList
        [("scheme".toList, "s".toList), ("term".toList, "cs.LO".toList)]),
      .element ⟨"author".toList⟩
        (spacedBy ['\t'] [textElement "arxiv:affiliation" "U & V", textElement "name" "N"]) [],
      textElement "title type='html'" "x < y & \"z\"",
      textElement "published" "2021-01-02T12:00:00.500+00:00",
      textElement "summary" "",
      textElement "id" "",
      .empty (Tag.withValues "a:category".toList [("term".toList, " 'q' ".toList)])]) []

theorem writesEntry_scattered : WritesEntry scatteredEntry scatteredPiece := by
  have hdate : Time.Rfc3339.stem noon ++ "+00:00".toList =
      "2021-01-02T12:00:00.500+00:00".toList := by decide +kernel
  have hauthor : WritesAuthor ⟨"N", some "U & V"⟩ (.element ⟨"author".toList⟩
      (spacedBy ['\t'] [textElement "arxiv:affiliation" "U & V", textElement "name" "N"]) []) := by
    have harranged : Arranged AuthorPart.element [.affiliation "U & V", .name "N"]
        (Author.parts ⟨"N", some "U & V"⟩) := by decide +kernel
    exact .intro rfl harranged (.cons (.intro rfl) (.cons (.intro rfl) .nil))
      (spaced_spacedBy (by decide) _)
  have hpublished : WritesDate "published" noon
      (textElement "published" "2021-01-02T12:00:00.500+00:00") := by
    refine ⟨_, List.mem_cons_of_mem _ List.mem_cons_self, ?_⟩
    rw [hdate]
    exact .intro rfl
  have harranged : Arranged EntryPart.element
      [.category ⟨"cs.LO"⟩, .author ⟨"N", some "U & V"⟩, .title "x < y & \"z\"", .published noon,
        .summary "", .id "", .category ⟨" 'q' "⟩] scatteredEntry.parts := by decide +kernel
  refine .intro rfl harranged ?_ (spaced_spacedBy (by decide) _)
  refine .cons (.intro (by decide) rfl ⟨by decide, by decide⟩ (by decide)) (.cons hauthor
    (.cons (.intro rfl) (.cons hpublished (.cons (.intro rfl) (.cons (.intro rfl)
      (.cons (.intro (by decide) rfl ⟨by decide, by decide⟩ (by decide)) .nil))))))

/-- The entry stands before what is said of the page. -/
def scatteredPieces : List Piece :=
  [scatteredPiece,
    textElement "opensearch:totalResults" "12",
    textElement "title" "",
    .empty (Tag.withValues "link".toList
      [("rel".toList, "self".toList), ("href".toList, "http://x/?a=1&b=2".toList)]),
    textElement "opensearch:startIndex" "0",
    textElement "opensearch:itemsPerPage" "0",
    textElement "updated" "",
    textElement "id" ""]

theorem decode_written_scattered :
    decode (String.ofList (Piece.element ⟨"a:feed xmlns:a='http://www.w3.org/2005/Atom'".toList⟩
      (spacedBy ['\r', '\n'] scatteredPieces) []).write) = .ok scatteredPage := by
  have hnormal : scatteredPage.Normal := by decide +kernel
  have harranged : Arranged PagePart.element
      [.entry scatteredEntry, .total 12, .title "",
        .link ⟨"http://x/?a=1&b=2", some "self", none, none⟩, .start 0, .perPage 0, .updated "",
        .id ""] scatteredPage.parts := by decide +kernel
  have hvalid : (Piece.element ⟨"a:feed xmlns:a='http://www.w3.org/2005/Atom'".toList⟩
      (spacedBy ['\r', '\n'] scatteredPieces) []).Valid := by decide +kernel
  have hfeed := IsFeed.intro hvalid rfl (spaced_spacedBy (by decide) _)
  refine (decode_written rfl hnormal).2 _ ⟨_, _, harranged, ?_, hfeed⟩
  have hcount : ∀ (start name : String) (n : Nat) (s : String), Text.decimal n = s.toList →
      Tag.localName ⟨start.toList⟩ = name.toList →
      WritesText name (Text.decimal n) (textElement start s) := by
    intro start name n s hdecimal hname
    rw [hdecimal]
    exact .intro hname
  have hzero : Text.decimal 0 = "0".toList := by decide +kernel
  have htwelve : Text.decimal 12 = "12".toList := by decide +kernel
  exact .cons writesEntry_scattered (.cons (hcount _ _ _ _ htwelve rfl) (.cons (.intro rfl)
    (.cons (.intro (by decide) rfl ⟨by decide, by decide⟩ (by decide))
      (.cons (hcount _ _ _ _ hzero rfl) (.cons (hcount _ _ _ _ hzero rfl)
        (.cons (.intro rfl) (.cons (.intro rfl) .nil)))))))

end Feed
end PaperSearch
