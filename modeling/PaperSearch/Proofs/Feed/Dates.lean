import PaperSearch.Proofs.Feed.Change
import PaperSearch.Proofs.Feed.Respelled
import PaperSearch.Proofs.Time.Offset
import PaperSearch.Proofs.Time.Stamp

/-!
# Dates of an entry

The dates of an entry are instants, and how they are written does not show in the page: whatever
timestamp of an instant an element holds, the entry gets the instant (`decode_dated`). White space
alone stands for no date (`Says`).

The element sets the date of the entry that is open (`run_date`). What stands behind it in the entry
does not meet that date (`commutes_redate`), so it may as well be set at the end of the entry, and
what stands behind the entry does not meet the entry at all (`exists_decode`).
-/

namespace PaperSearch.Feed

open Xml Time

/-! ## Dates -/

/-- The dates of an entry. -/
inductive EntryDate where
  | published
  | updated
  deriving DecidableEq, Repr

namespace EntryDate

/-- The local name of the element that holds the date. -/
def element : EntryDate → List Char
  | published => "published".toList
  | updated => "updated".toList

def get : EntryDate → Entry → Option Instant
  | published, e => e.published
  | updated, e => e.updated

def set : EntryDate → Entry → Option Instant → Entry
  | published, e, t => { e with published := t }
  | updated, e, t => { e with updated := t }

variable (d : EntryDate) (e : Entry) (t t' : Option Instant)

theorem get_set : d.get (d.set e t) = t := by
  cases d <;> rfl

theorem set_set : d.set (d.set e t) t' = d.set e t' := by
  cases d <;> rfl

theorem element_not_structural : d.element ∉ structural := by
  cases d <;> decide

theorem withEntryElement_element (value : String) :
    State.withEntryElement e d.element value = (readDate value).map (d.set e) := by
  cases d <;> rfl

/-- An element of another name does with the entry what it would do without the date. -/
theorem withEntryElement_set {name : List Char} (h : name ≠ d.element) (value : String) :
    State.withEntryElement (d.set e t) name value =
      (State.withEntryElement e name value).map (d.set · t) := by
  unfold State.withEntryElement
  split
  · cases d <;> rfl
  split
  · cases d <;> rfl
  split
  · cases d <;> rfl
  split
  · rename_i hname
    cases d with
    | published => exact absurd hname h
    | updated => cases readDate value <;> rfl
  split
  · rename_i hname
    cases d with
    | published => cases readDate value <;> rfl
    | updated => exact absurd hname h
  split
  · cases d <;> rfl
  split
  · cases d <;> rfl
  split
  · cases d <;> rfl
  · rfl

end EntryDate

/-- What a text says of a date: nothing, or an instant that it writes. White space around it or
instead of the space in it does not count. -/
inductive Says (s : List Char) : Option Instant → Prop where
  | nothing (h : Text.collapse s = []) : Says s none
  | date {t : Instant} (h : Rfc3339.Writes t (Text.collapse s)) : Says s (some t)

/-- A timestamp says what it writes. -/
theorem says_of_writes {t : Instant} {s : List Char} (h : Rfc3339.Writes t s) : Says s (some t) :=
  .date ((Text.collapse_of_tidy h.tidy).symm ▸ h)

theorem Says.readDate {s : List Char} {v : Option Instant} (h : Says s v) :
    readDate (String.ofList (Text.collapse s)) = .ok v := by
  cases h with
  | nothing hempty =>
    rw [hempty]
    rfl
  | date hwrites =>
    have hne : ¬ (String.ofList (Text.collapse s)).isEmpty = true := by
      rw [String.isEmpty_iff, String.ofList_eq_empty_iff]
      exact hwrites.ne_nil
    rw [Feed.readDate, if_neg hne, String.toList_ofList, hwrites.parse]

namespace State

variable {d : EntryDate} {st st' : State}

/-- A date element sets the date of the entry that is open, unless an author is open in it. -/
theorem run_date {tag : Tag} (htag : tag.localName = d.element) {content : Content}
    {s : List Char} {v : Option Instant} (hs : content.Spells s) (hv : Says s v) {e : Entry}
    (hentry : st.entry = some e) (hauthor : st.author = none) :
    ∃ first last, st.begin tag = .ok first ∧ first.run content.events = .ok last ∧
      last.close tag.localName = .ok { st with entry := some (d.set e v), text := [] } := by
  obtain ⟨page, entry, author, text⟩ := st
  cases hentry
  cases hauthor
  refine ⟨_, _, begin_text (htag ▸ d.element_not_structural) _, run_of_spells hs _, ?_⟩
  have hne : d.element ≠ "entry".toList := by cases d <;> decide
  rw [htag]
  show closeInEntry ⟨page, some e, none, []⟩ e d.element (String.ofList (Text.collapse s)) = _
  rw [closeInEntry, if_neg hne, d.withEntryElement_element, hv.readDate]
  rfl

/-- The open entry gets another date. -/
def redate (d : EntryDate) (v : Option Instant) : Change where
  page := id
  entry e := d.set e v

/-- Only the ends of the entry and of elements for that date meet the date. -/
theorem commutes_redate (d : EntryDate) (v : Option Instant) :
    (redate d v).Commutes ["entry".toList, d.element] where
  pageLink _ _ := rfl
  entryLink _ _ := by cases d <;> rfl
  category _ _ := by cases d <;> rfl
  primaryCategory _ _ := by cases d <;> rfl
  author _ _ := by cases d <;> rfl
  pageElement p name value := by
    show withPageElement p name value = (withPageElement p name value).map id
    cases withPageElement p name value <;> rfl
  entryElement e name value hname :=
    d.withEntryElement_set e v (fun heq => hname (heq ▸ by simp)) value
  opens h := absurd List.mem_cons_self h
  closes h := absurd List.mem_cons_self h

end State

/-! ## Documents -/

/-- A document but for the content of a date element of one of its entries. The entry is open where
the element begins, and no author is; between the end of the element and that of the entry no other
entry begins and no other element for that date. -/
structure DateSite (d : EntryDate) where
  before : List Char
  start : List Char
  stop : List Char
  back : Content
  entryEnd : List Char
  after : List Char
  tag : Tag
  entryName : List Char
  others : List (List Char)
  reached : State
  opened : openAfter? before = some (entryName :: others)
  reads : State.start.run (read before).events = .ok reached
  isEntry : localName entryName = "entry".toList
  inEntry : reached.entry.isSome
  noAuthor : reached.author = none
  isDate : tag.localName = d.element
  starts : IsMarkup start (.opening tag)
  stops : IsMarkup stop (.closing tag.name)
  valid : back.Valid
  apart : ∀ event ∈ back.events, ∀ name ∈ event.element?, name ∉ ["entry".toList, d.element]
  ends : IsMarkup entryEnd (.closing entryName)

namespace DateSite

variable {d : EntryDate} (site : DateSite d)

/-- The document with content in the element. -/
def document (content : Content) : String :=
  String.ofList (site.before ++ (site.start ++ (content.write ++ (site.stop ++
    (site.back.write ++ (site.entryEnd ++ site.after))))))

/-- As many entries end before the element. -/
def index : Nat :=
  site.reached.page.entries.length

/-- Behind the element the entry is read to its end, and then what stands behind it. -/
theorem gives_back {st : State} {page : Page} :
    st.Gives (readFrom (site.entryName :: site.others)
        (site.back.write ++ (site.entryEnd ++ site.after))) page ↔
      ∃ mid, st.run site.back.events = .ok mid ∧ ∃ last, mid.close "entry".toList = .ok last ∧
        last.Gives (readFrom site.others site.after) page := by
  have hclosed : nest (site.entryName :: site.others) (.closing site.entryName) = .ok site.others :=
    if_pos rfl
  have hone : ∀ st st' : State, st.run [.closing site.entryName] = .ok st' ↔
      st.close "entry".toList = .ok st' := by
    intro st st'
    rw [State.run_cons, State.step, site.isEntry]
    cases st.close "entry".toList <;> rfl
  rw [readFrom_content site.back _ _ site.valid (site.ends.head?_append _), State.gives_after]
  simp only [site.ends.readFrom hclosed, State.gives_after, hone]

/-- What a document with a date gives: the entries before that entry, the entry with the date, and
the entries behind it. -/
theorem exists_decode {content : Content} {s : List Char} {v : Option Instant} {page : Page}
    (hs : content.Spells s) (hv : Says s v) (h : decode (site.document content) = .ok page) :
    ∃ (e : Entry) (rest : Page), ∀ content' s' v', Content.Spells content' s' → Says s' v' →
      decode (site.document content') = .ok { rest with
        entries := site.reached.page.entries ++ d.set e v' :: rest.entries } := by
  obtain ⟨e, hentry⟩ := Option.isSome_iff_exists.mp site.inEntry
  -- the date is set in the state without it
  let base : State := { site.reached with entry := some e, text := [] }
  have hdocument : ∀ content' s' v' page', Content.Spells content' s' → Says s' v' →
      (decode (site.document content') = .ok page' ↔
        ((State.redate d v').apply base).Gives (readFrom (site.entryName :: site.others)
          (site.back.write ++ (site.entryEnd ++ site.after))) page') := by
    intro content' s' v' page' hs' hv'
    obtain ⟨first, last, hfirst, hlast, hclose⟩ :=
      State.run_date site.isDate hs' hv' hentry site.noAuthor
    rw [document, decode_element_append site.opened site.starts site.stops hs'.content_valid,
      exists_ok_and_iff site.reads, exists_ok_and_iff hfirst, exists_ok_and_iff hlast,
      exists_ok_and_iff hclose]
    rfl
  have hback : ∀ v, ((State.redate d v).apply base).run site.back.events =
      (base.run site.back.events).map (State.redate d v).apply := fun v =>
    (State.commutes_redate d v).run site.apart base
  rw [hdocument content s v page hs hv, site.gives_back] at h
  obtain ⟨mid, hmid, last, hlast, hgives⟩ := h
  rw [hback] at hmid
  obtain ⟨inner, hinner, rfl⟩ := exists_of_map_eq_ok hmid
  -- the entry is still open at its end, and no author is
  have hopenFirst : base.entry.isSome := rfl
  have hnoneFirst : base.author = none := site.noAuthor
  have hnone : inner.author = none := State.kept_author.content site.back hnoneFirst hinner
  obtain ⟨hpage, hopen⟩ := State.run_in_entry (fun event hevent name hname heq =>
    site.apart event hevent name hname (heq ▸ List.mem_cons_self)) hopenFirst hinner
  obtain ⟨page', entry, author, text⟩ := inner
  obtain ⟨e', rfl⟩ := Option.isSome_iff_exists.mp hopen
  cases hnone
  cases hpage
  have hclose : ∀ v, ((State.redate d v).apply ⟨site.reached.page, some e', none, text⟩).close
      "entry".toList = .ok ((State.Change.behind (site.reached.page.entries ++ [d.set e' v])).apply
        ⟨{ site.reached.page with entries := [] }, none, none, []⟩) := by
    intro v
    show Except.ok (State.mk { site.reached.page with
        entries := site.reached.page.entries ++ [d.set e' v] } none none []) =
      .ok (.mk { site.reached.page with
        entries := site.reached.page.entries ++ [d.set e' v] ++ [] } none none [])
    rw [List.append_nil]
  rw [hclose] at hlast
  cases hlast
  obtain ⟨rest, hrest, -⟩ := (State.Change.gives_behind _).mp hgives
  refine ⟨e', rest, fun content' s' v' hs' hv' => ?_⟩
  rw [hdocument content' s' v' _ hs' hv', site.gives_back, hback, hinner]
  refine ⟨_, rfl, _, hclose v', (State.Change.gives_behind _).mpr ⟨rest, hrest, ?_⟩⟩
  rw [List.append_assoc]
  rfl

/-- **Dates do not depend on how they are written.** If a document can be read with content in an
element for a date that says something of it, it can be read with every other such content: the
entry of the element has the date of which the content says something, and all else is as it was.
Timestamps of an instant say the instant, in whatever zone they are written (`says_of_writes`), and
blanks say that there is no date. -/
theorem decode_dated {content : Content} {s : List Char} {v : Option Instant} {page : Page}
    (hs : content.Spells s) (hv : Says s v) (h : decode (site.document content) = .ok page) :
    ∃ e, page.entries[site.index]? = some e ∧ d.get e = v ∧
      ∀ content' s' v', Content.Spells content' s' → Says s' v' →
        decode (site.document content') =
          .ok { page with entries := page.entries.set site.index (d.set e v') } := by
  obtain ⟨e, rest, hdecode⟩ := site.exists_decode hs hv h
  obtain rfl := Except.ok.inj (h.symm.trans (hdecode content s v hs hv))
  have hentry : (site.reached.page.entries ++ d.set e v :: rest.entries)[site.index]? =
      some (d.set e v) := by
    rw [index, List.getElem?_append_right le_rfl, Nat.sub_self]
    rfl
  refine ⟨d.set e v, hentry, d.get_set e v, fun content' s' v' hs' hv' => ?_⟩
  rw [hdecode content' s' v' hs' hv', d.set_set]
  have hset : (site.reached.page.entries ++ d.set e v :: rest.entries).set site.index (d.set e v') =
      site.reached.page.entries ++ d.set e v' :: rest.entries := by
    rw [index, List.set_append_right _ _ le_rfl, Nat.sub_self]
    rfl
  rw [hset]

end DateSite

/-- What the clock of a zone shows in a leap second five and a half hours to the west, in parts and
with blanks. -/
def westernClock : Content :=
  .next " 2016-12-31\n18:29:60".toList (.characters ".500000000000".toList)
    (.last "&#x2212;05:30 ".toList)

/-- A feed of two entries; the first may have been published. -/
def twoEntries : DateSite .published where
  before := "<feed><entry><id><![CDATA[x]]></id>".toList
  start := '<' :: ("published".toList ++ ['>'])
  stop := '<' :: '/' :: ("published".toList ++ ['>'])
  back := .next [] (.element ⟨"title".toList⟩ (.last "T".toList) []) (.last [])
  entryEnd := '<' :: '/' :: ("entry".toList ++ ['>'])
  after := "<entry><title>U</title></entry></feed>".toList
  tag := ⟨"published".toList⟩
  entryName := "entry".toList
  others := ["feed".toList]
  reached := ⟨Page.default, some { Entry.default with id := "x" }, none, []⟩
  opened := by decide +kernel
  reads := by
    have hevents : (read "<feed><entry><id><![CDATA[x]]></id>".toList).events =
        [.opening ⟨"feed".toList⟩, .opening ⟨"entry".toList⟩, .opening ⟨"id".toList⟩,
          .characters ['x'], .closing "id".toList] := by decide +kernel
    rw [hevents]
    rfl
  isEntry := by decide
  inEntry := rfl
  noAuthor := rfl
  isDate := by decide
  starts := isMarkup_opening (by decide +kernel) (by decide)
  stops := isMarkup_end (by decide +kernel)
  valid := ⟨List.not_mem_nil, ⟨by decide +kernel, by decide, (by decide : '<' ∉ "T".toList),
    List.forall_mem_nil _⟩, List.not_mem_nil⟩
  apart := by decide +kernel
  ends := isMarkup_end (by decide +kernel)

/-- An element that was empty gets a leap second. -/
theorem decode_dated_leapSecond : decode (twoEntries.document westernClock) =
    .ok { Page.default with entries :=
      [{ Entry.default with id := "x", title := "T", published := some Instant.leapSecond },
        { Entry.default with title := "U" }] } := by
  have hspells : ∀ raw t : String, (expand raw.toList).toOption = some t.toList →
      '<' ∉ raw.toList → Xml.Spells raw.toList t.toList :=
    fun _ _ hread hraw => (expand_eq_ok_iff hraw).mp (eq_ok_of_toOption hread)
  have hempty : Content.Spells (.last " ".toList) " ".toList :=
    .last (hspells " " " " (by decide +kernel) (by decide))
  have hdecode : decode (twoEntries.document (.last " ".toList)) =
      .ok { Page.default with entries :=
        [{ Entry.default with id := "x", title := "T" }, { Entry.default with title := "U" }] } :=
    eq_ok_of_toOption (by decide +kernel)
  have hparts : westernClock.Spells (" 2016-12-31\n18:29:60".toList ++
      (".500000000000".toList ++ "\u221205:30 ".toList)) :=
    .characters (hspells " 2016-12-31\n18:29:60" " 2016-12-31\n18:29:60" (by decide +kernel)
      (by decide)) (by decide +kernel : ¬ "]]>".toList <:+: ".500000000000".toList)
      (.last (hspells "&#x2212;05:30 " "\u221205:30 " (by decide +kernel) (by decide)))
  have hwrites : Rfc3339.Writes Instant.leapSecond
      "2016-12-31 18:29:60.500000000000\u221205:30".toList := by
    have hwritten : "2016-12-31 18:29:60.500000000000\u221205:30".toList =
        Rfc3339.dateText Instant.leapSecond (-330) ++ ' ' ::
          (Rfc3339.timeText Instant.leapSecond (-330) ++
            (".500000000000".toList ++ '\u2212' :: Rfc3339.offsetDigits (-330))) := by
      decide +kernel
    rw [hwritten]
    exact .intro (by decide) (by decide +kernel) (by decide +kernel) (.inr (.inr rfl))
      (.point (n := 500000000000) (by decide +kernel) (by decide +kernel))
      (.minus (by decide) (.inr rfl))
  have hcollapse : Text.collapse (" 2016-12-31\n18:29:60".toList ++
      (".500000000000".toList ++ "\u221205:30 ".toList)) =
        "2016-12-31 18:29:60.500000000000\u221205:30".toList := by decide +kernel
  obtain ⟨e, hentry, -, hdated⟩ := twoEntries.decode_dated hempty (.nothing (by decide)) hdecode
  cases hentry
  exact hdated westernClock _ _ hparts (.date (hcollapse.symm ▸ hwrites))

end PaperSearch.Feed
