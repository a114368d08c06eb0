import PaperSearch.Proofs.Feed.Observed

/-!
# Elements without content

An element without content can be written with one tag or with two. The two ways are not read
alike: with one tag only its attributes are looked at, with two it also opens and closes an entry
or an author, sets what its text sets, and drops the text that is pending.

So the two ways mean the same where the element would change nothing by being empty, and pending
text is of no consequence (`State.Idle`, `State.Alike`). Between elements without text that are
themselves well-formed they mean the same nowhere else (`interchangeable_spellings`).
-/

namespace PaperSearch.Feed

open Xml

namespace State

variable {st : State} {tag : Tag} {name gap : List Char} {opened : List (List Char)}

/-- An element with this name and nothing in it leaves the state as it is, whatever its attributes
are: what it would set is not set, and it would open nothing. -/
def Idle (st : State) (name : List Char) : Prop :=
  match st.author, st.entry with
  | some a, entry =>
    name ≠ "author".toList ∧ (name = "entry".toList → entry = some Entry.default) ∧
      (name = "name".toList → a.name = "") ∧ (name = "affiliation".toList → a.affiliation = none)
  | none, some e =>
    name ≠ "entry".toList ∧ name ≠ "author".toList ∧ withEntryElement e name "" = .ok e
  | none, none => name ≠ "entry".toList ∧ withPageElement st.page name "" = .ok st.page

/-- The element with two tags. -/
theorem run_hollow (st : State) (tag : Tag) (gap : List Char) :
    st.run (Piece.element tag (.last []) gap).events =
      (st.begin tag).bind fun st => st.close tag.localName := by
  rw [run_element]
  cases st.begin tag <;> rfl

theorem quiet_of_mem_attributeNames (h : name ∈ attributeNames) :
    name ∉ textNames ∧ name ≠ "entry".toList ∧ name ≠ "author".toList := by
  have hquiet : ∀ n ∈ attributeNames,
      n ∉ textNames ∧ n ≠ "entry".toList ∧ n ≠ "author".toList := by decide
  exact hquiet name h

theorem idle_of_attributeNames (h : name ∈ attributeNames) (st : State) : st.Idle name := by
  obtain ⟨htext, hentry, hauthor⟩ := quiet_of_mem_attributeNames h
  obtain ⟨page, entry, author, text⟩ := st
  cases author with
  | some a =>
    exact ⟨hauthor, fun heq => absurd heq hentry, fun heq => absurd (heq ▸ by decide) htext,
      fun heq => absurd (heq ▸ by decide) htext⟩
  | none =>
    cases entry with
    | some e => exact ⟨hentry, hauthor, withEntryElement_unread htext e ""⟩
    | none => exact ⟨hentry, withPageElement_unread htext page ""⟩

section

variable {page : Page} {entry : Option Entry} {author : Option Author} {a : Author} {e : Entry}
  (text : List Char)

/-- In an author only the texts of the author are set. -/
theorem close_iff_of_author (hentry : name ≠ "entry".toList) :
    (∃ text', close ⟨page, entry, some a, []⟩ name = .ok ⟨page, entry, some a, text'⟩) ↔
      Idle ⟨page, entry, some a, text⟩ name := by
  have hclose : close ⟨page, entry, some a, []⟩ name =
      .ok (closeInAuthor ⟨page, entry, some a, []⟩ a name "") := rfl
  rw [hclose]
  constructor
  · rintro ⟨text', h⟩
    have hauthor : (closeInAuthor ⟨page, entry, some a, []⟩ a name "").author = some a :=
      congrArg State.author (Except.ok.inj h)
    refine ⟨?_, fun heq => absurd heq hentry, ?_, ?_⟩
    · rintro rfl
      cases hauthor
    · rintro rfl
      exact (congrArg Author.name (Option.some.inj hauthor)).symm
    · rintro rfl
      exact (congrArg Author.affiliation (Option.some.inj hauthor)).symm
  · rintro ⟨hauthor, -, hname, haffiliation⟩
    refine ⟨[], congrArg Except.ok ?_⟩
    unfold closeInAuthor
    split
    · rename_i heq
      rw [← hname heq]
    · split
      · rename_i heq
        show (⟨page, entry, some { a with affiliation := none }, []⟩ : State) = _
        rw [← haffiliation heq]
      · rfl

theorem close_iff_of_entry (hentry : name ≠ "entry".toList) (hauthor : name ≠ "author".toList) :
    (∃ text', close ⟨page, some e, none, []⟩ name = .ok ⟨page, some e, none, text'⟩) ↔
      Idle ⟨page, some e, none, text⟩ name := by
  have hclose : close ⟨page, some e, none, []⟩ name =
      (withEntryElement e name "").map fun e => ⟨page, some e, none, []⟩ := if_neg hentry
  rw [hclose]
  constructor
  · rintro ⟨text', h⟩
    obtain ⟨e', hread, heq⟩ := exists_of_map_eq_ok h
    cases heq
    exact ⟨hentry, hauthor, hread⟩
  · rintro ⟨-, -, hread⟩
    rw [hread]
    exact ⟨[], rfl⟩

theorem close_iff_of_page (hentry : name ≠ "entry".toList) :
    (∃ text', close ⟨page, none, none, []⟩ name = .ok ⟨page, none, none, text'⟩) ↔
      Idle ⟨page, none, none, text⟩ name := by
  have hclose : close ⟨page, none, none, []⟩ name =
      (withPageElement page name "").map fun page => ⟨page, none, none, []⟩ := rfl
  rw [hclose]
  constructor
  · rintro ⟨text', h⟩
    obtain ⟨page', hread, heq⟩ := exists_of_map_eq_ok h
    cases heq
    exact ⟨hentry, hread⟩
  · rintro ⟨-, hread⟩
    rw [hread]
    exact ⟨[], rfl⟩

/-- An entry without content is an entry of the page, unless it ends within an author. There it only
begins anew the entry that is open. -/
theorem close_entry_iff :
    (∃ text', close ⟨page, some Entry.default, author, []⟩ "entry".toList =
      .ok ⟨page, entry, author, text'⟩) ↔ Idle ⟨page, entry, author, text⟩ "entry".toList := by
  cases author with
  | some a =>
    have hclose : close ⟨page, some Entry.default, some a, []⟩ "entry".toList =
        .ok ⟨page, some Entry.default, some a, []⟩ := rfl
    constructor
    · rintro ⟨text', h⟩
      cases hclose.symm.trans h
      exact ⟨by decide, fun _ => rfl, fun heq => absurd heq (by decide),
        fun heq => absurd heq (by decide)⟩
    · rintro ⟨-, hdefault, -⟩
      obtain rfl : entry = some Entry.default := hdefault rfl
      exact ⟨[], hclose⟩
  | none =>
    have hclose : close ⟨page, some Entry.default, none, []⟩ "entry".toList =
        .ok ⟨{ page with entries := page.entries ++ [Entry.default] }, none, none, []⟩ := rfl
    refine iff_of_false ?_ ?_
    · rintro ⟨text', h⟩
      have hentries := congrArg (fun st => st.page.entries) (Except.ok.inj (hclose.symm.trans h))
      simp at hentries
    · cases entry <;> exact fun hidle => hidle.1 rfl

/-- An author without content is an author of the entry that is open. -/
theorem close_author_iff :
    (∃ text', close ⟨page, some e, some ⟨"", none⟩, []⟩ "author".toList =
      .ok ⟨page, some e, author, text'⟩) ↔ Idle ⟨page, some e, author, text⟩ "author".toList := by
  have hclose : close ⟨page, some e, some ⟨"", none⟩, []⟩ "author".toList =
      .ok ⟨page, some { e with authors := e.authors ++ [⟨"", none⟩] }, none, []⟩ := rfl
  refine iff_of_false ?_ ?_
  · rintro ⟨text', h⟩
    have hauthors := congrArg (fun st => st.entry.map Entry.authors)
      (Except.ok.inj (hclose.symm.trans h))
    simp at hauthors
  · cases author with
    | some a => exact fun hidle => hidle.1 rfl
    | none => exact fun hidle => hidle.2.1 rfl

end

/-- An element that says nothing by its attributes changes nothing but pending text exactly where it
is idle. -/
theorem run_hollow_iff (hplain : tag.localName ∉ attributeNames) :
    (∃ text, st.run (Piece.element tag (.last []) gap).events = .ok { st with text }) ↔
      st.Idle tag.localName := by
  obtain ⟨page, entry, author, text⟩ := st
  rw [run_hollow]
  by_cases hentry : tag.localName = "entry".toList
  · have hbegin : State.begin ⟨page, entry, author, text⟩ tag =
        .ok ⟨page, some Entry.default, author, []⟩ := if_pos hentry
    rw [hbegin, hentry]
    exact close_entry_iff text
  by_cases hauthor : tag.localName = "author".toList ∧ entry.isSome
  · obtain ⟨hname, hsome⟩ := hauthor
    obtain ⟨e, rfl⟩ := Option.isSome_iff_exists.mp hsome
    have hbegin : State.begin ⟨page, some e, author, text⟩ tag =
        .ok ⟨page, some e, some ⟨"", none⟩, []⟩ := by
      rw [State.begin, if_neg hentry]
      exact if_pos ⟨hname, rfl⟩
    rw [hbegin, hname]
    exact close_author_iff text
  · have hbegin : State.begin ⟨page, entry, author, text⟩ tag = .ok ⟨page, entry, author, []⟩ := by
      rw [State.begin, if_neg hentry]
      exact (if_neg hauthor).trans (readTag_plain hplain _)
    rw [hbegin]
    cases author with
    | some a => exact close_iff_of_author text hentry
    | none =>
      cases entry with
      | some e => exact close_iff_of_entry text hentry fun heq => hauthor ⟨heq, rfl⟩
      | none => exact close_iff_of_page text hentry

/-- Where it is idle an element with two tags says what its attributes say, and drops the text that
is pending. -/
theorem run_hollow_of_idle (h : st.Idle tag.localName) :
    st.run (Piece.element tag (.last []) gap).events =
      (st.readTag tag).map fun st => { st with text := [] } := by
  by_cases hname : tag.localName ∈ attributeNames
  · obtain ⟨htext, hentry, hauthor⟩ := quiet_of_mem_attributeNames hname
    have hbegin : st.begin tag = State.readTag { st with text := [] } tag := by
      rw [State.begin, if_neg hentry, if_neg fun hopen => hauthor hopen.1]
    rw [run_hollow, hbegin, readTag_text]
    cases st.readTag tag with
    | error fault => rfl
    | ok mid => exact close_quiet htext hentry hauthor _
  · obtain ⟨text, hrun⟩ := (run_hollow_iff hname).mpr h
    rw [readTag_plain hname, hrun]
    rw [run_hollow] at hrun
    obtain ⟨mid, -, hclose⟩ := exists_of_bind_eq_ok hrun
    obtain ⟨-, -, htext⟩ := close_leaves hclose
    rw [← htext]
    rfl

end State

/-! ## The two ways -/

/-- Behind the text an element without content may be written in both ways, whatever follows. -/
def Interchangeable (before : List Char) (tag : Tag) (gap : List Char) : Prop :=
  ∀ (after : List Char) (page : Page),
    decode (String.ofList (before ++ ((Piece.empty tag).write ++ after))) = .ok page ↔
      decode (String.ofList (before ++ ((Piece.element tag (.last []) gap).write ++ after))) =
        .ok page

section

variable {before gap : List Char} {tag : Tag} {opened : List (List Char)}

theorem run_empty (st : State) (tag : Tag) :
    st.run (Piece.empty tag).events = st.readTag tag := by
  show Except.bind (st.readTag tag) _ = _
  cases st.readTag tag <;> rfl

theorem interchangeable_of_idle (hplace : openAfter? before = some opened) (htag : tag.Valid)
    (hvalid : (Piece.element tag (.last []) gap).Valid)
    (h : ∀ st, State.start.run (read before).events = .ok st →
      st.Idle tag.localName ∧ st.Alike opened { st with text := [] }) :
    Interchangeable before tag gap := by
  intro after page
  have hempty : (Piece.empty tag).Valid := htag
  rw [decode_piece hplace hempty, decode_piece hplace hvalid]
  refine exists_congr fun st => and_congr_right fun hst => ?_
  obtain ⟨hidle, halike⟩ := h st hst
  rw [run_empty, State.run_hollow_of_idle hidle]
  cases hread : st.readTag tag with
  | error fault => exact iff_of_false (fun ⟨_, h, _⟩ => nomatch h) (fun ⟨_, h, _⟩ => nomatch h)
  | ok mid =>
    obtain ⟨last, hlast, hmid⟩ := halike.readTag hread
    rw [State.readTag_text, hread] at hlast
    cases hlast
    have hdropped : (Except.ok mid : Except Fault State).map (fun st => { st with text := [] }) =
        .ok { mid with text := [] } := rfl
    rw [exists_ok_and_iff rfl, exists_ok_and_iff hdropped]
    exact hmid.gives

theorem idle_of_interchangeable (hplace : openAfter? before = some opened) (htag : tag.Valid)
    (hvalid : (Piece.element tag (.last []) gap).Valid) (hopened : State.Plain opened)
    (h : Interchangeable before tag gap) {st : State}
    (hst : State.start.run (read before).events = .ok st) : st.Idle tag.localName := by
  by_cases hname : tag.localName ∈ State.attributeNames
  · exact State.idle_of_attributeNames hname st
  have hempty : (Piece.empty tag).Valid := htag
  have hgives : ∀ after page, st.Gives (readFrom opened after) page ↔
      ∃ mid, st.run (Piece.element tag (.last []) gap).events = .ok mid ∧
        mid.Gives (readFrom opened after) page := by
    intro after page
    have hsame := h after page
    rwa [decode_piece hplace hempty, decode_piece hplace hvalid, exists_ok_and_iff hst,
      exists_ok_and_iff hst, run_empty, State.readTag_plain hname, exists_ok_and_iff rfl] at hsame
  have hstart : State.Housed [] State.start := .of_no_author rfl fun hsome => nomatch hsome
  have hhoused : State.Housed opened st := hstart.run (nestAll_of_openAfter? hplace) hst
  obtain ⟨mid, hmid, -⟩ := (hgives _ _).mp ((State.gives_closings hhoused hopened).mpr rfl)
  have hnest : nestAll opened (Piece.element tag (.last []) gap).events = .ok opened := by
    have hclosed : nest (tag.name :: opened) (.closing tag.name) = .ok opened := if_pos rfl
    show Except.bind (nest (tag.name :: opened) (.closing tag.name)) _ = _
    rw [hclosed]
    rfl
  have hsame : ∀ after page, st.Gives (readFrom opened after) page ↔
      mid.Gives (readFrom opened after) page := by
    intro after page
    rw [hgives, exists_ok_and_iff hmid]
  obtain ⟨text, rfl⟩ :=
    State.exists_text_of_gives_iff hhoused (hhoused.run hnest hmid) hopened hsame
  exact (State.run_hollow_iff hname).mp ⟨text, hmid⟩

/-- **When an element without content may be written in both ways.** It may where it is idle and the
text that is pending is of no consequence. Between well-formed elements without text of their own
it may exactly where it is idle. -/
theorem interchangeable_spellings (hplace : openAfter? before = some opened) (htag : tag.Valid)
    (hlast : tag.content.getLast? ≠ some '/') (hgap : ∀ c ∈ gap, isSpace c = true) :
    ((∀ st, State.start.run (read before).events = .ok st →
        st.Idle tag.localName ∧ st.Alike opened { st with text := [] }) →
      Interchangeable before tag gap) ∧
    (State.Plain opened → (Interchangeable before tag gap ↔
      ∀ st, State.start.run (read before).events = .ok st → st.Idle tag.localName)) := by
  have hvalid : (Piece.element tag (.last []) gap).Valid := ⟨htag, hlast, List.not_mem_nil, hgap⟩
  have hboth := interchangeable_of_idle hplace htag hvalid
  refine ⟨hboth, fun hopened => ⟨fun h st hst => ?_, fun h => hboth fun st hst => ⟨h st hst, ?_⟩⟩⟩
  · exact idle_of_interchangeable hplace htag hvalid hopened h hst
  · exact .unread fun name hname => (hopened name (List.mem_of_mem_head? hname)).2

/-- Emphasis may stand in a title in both ways, but a title that is told again may not. -/
theorem interchangeable_spellings_title :
    Interchangeable "<feed><title>".toList ⟨"b".toList⟩ [] ∧
      ¬ Interchangeable "<feed><entry><title><![CDATA[T]]></title>".toList ⟨"title".toList⟩
        [' '] := by
  constructor
  · have hevents : (read "<feed><title>".toList).events =
        [.opening ⟨"feed".toList⟩, .opening ⟨"title".toList⟩] := by decide +kernel
    have hplace : openAfter? "<feed><title>".toList = some ["title".toList, "feed".toList] := by
      decide +kernel
    refine (interchangeable_spellings hplace (by decide +kernel) (by decide) (by decide)).1 ?_
    intro st hst
    rw [hevents] at hst
    cases hst
    exact ⟨⟨by decide, rfl⟩, .refl _ _⟩
  · have hevents : (read "<feed><entry><title><![CDATA[T]]></title>".toList).events =
        [.opening ⟨"feed".toList⟩, .opening ⟨"entry".toList⟩, .opening ⟨"title".toList⟩,
          .characters ['T'], .closing "title".toList] := by decide +kernel
    have hplace : openAfter? "<feed><entry><title><![CDATA[T]]></title>".toList =
        some ["entry".toList, "feed".toList] := by decide +kernel
    have hopened : State.Plain ["entry".toList, "feed".toList] := by decide +kernel
    have hrun : State.start.run (read "<feed><entry><title><![CDATA[T]]></title>".toList).events =
        .ok ⟨Page.default, some { Entry.default with title := "T" }, none, []⟩ := by
      rw [hevents]
      rfl
    intro hsame
    obtain ⟨-, -, hidle⟩ := ((interchangeable_spellings hplace (by decide +kernel) (by decide)
      (by decide)).2 hopened).mp hsame _ hrun
    have htitle := congrArg Entry.title (Except.ok.inj hidle)
    exact absurd htitle (by decide)

/-- **An element without content may not be written in both ways everywhere.** An entry with two
tags is an entry, and one with one tag is none. -/
theorem not_interchangeable_entry :
    ¬ ∀ (before gap : List Char) (tag : Tag), (openAfter? before).isSome → tag.Valid →
      tag.content.getLast? ≠ some '/' → (∀ c ∈ gap, isSpace c = true) →
        Interchangeable before tag gap := by
  intro h
  have hsame := h "<feed>".toList [] ⟨"entry".toList⟩ (by decide +kernel) (by decide +kernel)
    (by decide) (by decide) "</feed>".toList Page.default
  have hone : decode (String.ofList ("<feed>".toList ++
      ((Piece.empty ⟨"entry".toList⟩).write ++ "</feed>".toList))) = .ok Page.default :=
    eq_ok_of_toOption (by decide +kernel)
  have htwo : decode (String.ofList ("<feed>".toList ++
      ((Piece.element ⟨"entry".toList⟩ (.last []) []).write ++ "</feed>".toList))) =
        .ok { Page.default with entries := [Entry.default] } :=
    eq_ok_of_toOption (by decide +kernel)
  have hentries := congrArg Page.entries (Except.ok.inj ((hsame.mp hone).symm.trans htwo))
  exact absurd hentries (by decide)

end

end PaperSearch.Feed
