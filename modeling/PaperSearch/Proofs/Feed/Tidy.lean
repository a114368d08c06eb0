import PaperSearch.Proofs.Feed.Places
import PaperSearch.Proofs.Text.Tidy

/-!
# White space in pages that are read

In every page that a document gives the texts are tidy: their white space is single spaces inside,
and a text that may be absent is not empty (`decode_tidy`).

The invariant is about all that has been read, the page, the entry that is open and the author that
is open (`State.Tidy`). An event puts only collapsed text into them (`State.Tidy.step`), whatever is
pending, so a run keeps it.
-/

namespace PaperSearch

/-- A text is tidy. -/
def TidyText (s : String) : Prop :=
  Text.Tidy s.toList

/-- A text that may be absent is tidy, and not empty where it is there. -/
def TidyOptional (s : Option String) : Prop :=
  ∀ t ∈ s, TidyText t ∧ t ≠ ""

/-- The texts of an author are tidy. -/
structure Author.Tidy (a : Author) : Prop where
  name : TidyText a.name
  affiliation : TidyOptional a.affiliation

/-- The texts of an entry and of its authors are tidy. -/
structure Entry.Tidy (e : Entry) : Prop where
  id : TidyText e.id
  title : TidyText e.title
  summary : TidyText e.summary
  comment : TidyOptional e.comment
  journalRef : TidyOptional e.journalRef
  doi : TidyOptional e.doi
  authors : ∀ a ∈ e.authors, a.Tidy

/-- The texts of a page and of its entries are tidy. -/
structure Page.Tidy (p : Page) : Prop where
  title : TidyText p.title
  id : TidyText p.id
  updated : TidyText p.updated
  entries : ∀ e ∈ p.entries, e.Tidy

theorem tidyText_empty : TidyText "" :=
  Text.tidy_nil

theorem tidyOptional_none : TidyOptional none :=
  fun _ h => nomatch h

theorem Entry.tidy_default : Entry.default.Tidy :=
  ⟨tidyText_empty, tidyText_empty, tidyText_empty, tidyOptional_none, tidyOptional_none,
    tidyOptional_none, fun _ h => nomatch h⟩

namespace Feed

open Xml

theorem tidyText_collapse (s : List Char) : TidyText (String.ofList (Text.collapse s)) := by
  rw [TidyText, String.toList_ofList]
  exact Text.tidy_collapse s

theorem tidyOptional_nonEmpty? {s : String} (h : TidyText s) : TidyOptional (nonEmpty? s) := by
  intro t ht
  unfold nonEmpty? at ht
  split at ht
  · cases ht
  · rename_i hne
    cases ht
    exact ⟨h, mt String.isEmpty_iff.mpr hne⟩

namespace State

variable {st st' : State} {value : String} {name : List Char}

/-- What has been read is tidy. -/
structure Tidy (st : State) : Prop where
  page : st.page.Tidy
  entry : ∀ e ∈ st.entry, e.Tidy
  author : ∀ a ∈ st.author, a.Tidy

/-! ## Elements that end -/

theorem tidy_withEntryElement {e e' : Entry} (he : e.Tidy) (hvalue : TidyText value)
    (h : withEntryElement e name value = .ok e') : e'.Tidy := by
  obtain ⟨hid, htitle, hsummary, hcomment, hjournal, hdoi, hauthors⟩ := he
  have hoptional := tidyOptional_nonEmpty? hvalue
  unfold withEntryElement at h
  split at h
  · cases h
    exact ⟨hvalue, htitle, hsummary, hcomment, hjournal, hdoi, hauthors⟩
  split at h
  · cases h
    exact ⟨hid, hvalue, hsummary, hcomment, hjournal, hdoi, hauthors⟩
  split at h
  · cases h
    exact ⟨hid, htitle, hvalue, hcomment, hjournal, hdoi, hauthors⟩
  split at h
  · obtain ⟨t, -, rfl⟩ := exists_of_map_eq_ok h
    exact ⟨hid, htitle, hsummary, hcomment, hjournal, hdoi, hauthors⟩
  split at h
  · obtain ⟨t, -, rfl⟩ := exists_of_map_eq_ok h
    exact ⟨hid, htitle, hsummary, hcomment, hjournal, hdoi, hauthors⟩
  split at h
  · cases h
    exact ⟨hid, htitle, hsummary, hoptional, hjournal, hdoi, hauthors⟩
  split at h
  · cases h
    exact ⟨hid, htitle, hsummary, hcomment, hoptional, hdoi, hauthors⟩
  split at h
  · cases h
    exact ⟨hid, htitle, hsummary, hcomment, hjournal, hoptional, hauthors⟩
  · cases h
    exact ⟨hid, htitle, hsummary, hcomment, hjournal, hdoi, hauthors⟩

theorem tidy_withPageElement {p p' : Page} (hp : p.Tidy) (hvalue : TidyText value)
    (h : withPageElement p name value = .ok p') : p'.Tidy := by
  obtain ⟨htitle, hid, hupdated, hentries⟩ := hp
  unfold withPageElement at h
  split at h
  · cases h
    exact ⟨hvalue, hid, hupdated, hentries⟩
  split at h
  · cases h
    exact ⟨htitle, hvalue, hupdated, hentries⟩
  split at h
  · cases h
    exact ⟨htitle, hid, hvalue, hentries⟩
  -- the counts are no texts
  repeat' split at h
  · obtain ⟨n, -, rfl⟩ := exists_of_map_eq_ok h
    exact ⟨htitle, hid, hupdated, hentries⟩
  · obtain ⟨n, -, rfl⟩ := exists_of_map_eq_ok h
    exact ⟨htitle, hid, hupdated, hentries⟩
  · obtain ⟨n, -, rfl⟩ := exists_of_map_eq_ok h
    exact ⟨htitle, hid, hupdated, hentries⟩
  · cases h
    exact ⟨htitle, hid, hupdated, hentries⟩

namespace Tidy

theorem closeInAuthor {a : Author} (hst : st.Tidy) (ha : a.Tidy) (hvalue : TidyText value) :
    (st.closeInAuthor a name value).Tidy := by
  unfold State.closeInAuthor
  split
  · refine ⟨hst.page, hst.entry, ?_⟩
    rintro b ⟨⟩
    exact ⟨hvalue, ha.affiliation⟩
  split
  · refine ⟨hst.page, hst.entry, ?_⟩
    rintro b ⟨⟩
    exact ⟨ha.name, tidyOptional_nonEmpty? hvalue⟩
  split
  · refine ⟨hst.page, fun e he => ?_, (fun b hb => nomatch hb)⟩
    obtain ⟨e', he', rfl⟩ := Option.map_eq_some_iff.mp he
    have h := hst.entry e' he'
    refine { h with authors := fun b hb => ?_ }
    rcases List.mem_append.mp hb with hb | hb
    · exact h.authors b hb
    · rw [List.mem_singleton.mp hb]
      exact ha
  · exact hst

theorem closeInEntry {e : Entry} (hst : st.Tidy) (he : e.Tidy) (hvalue : TidyText value)
    (h : st.closeInEntry e name value = .ok st') : st'.Tidy := by
  unfold State.closeInEntry at h
  split at h
  · cases h
    refine ⟨{ hst.page with entries := fun e' he' => ?_ }, (fun e' he' => nomatch he'),
      hst.author⟩
    rcases List.mem_append.mp he' with he' | he'
    · exact hst.page.entries e' he'
    · rw [List.mem_singleton.mp he']
      exact he
  · obtain ⟨e', hread, rfl⟩ := exists_of_map_eq_ok h
    refine ⟨hst.page, ?_, hst.author⟩
    rintro _ ⟨⟩
    exact tidy_withEntryElement he hvalue hread

/-- The state is as tidy with other text pending. -/
theorem text (hst : st.Tidy) (text : List Char) : Tidy { st with text } :=
  ⟨hst.page, hst.entry, hst.author⟩

theorem close (hst : st.Tidy) (h : st.close name = .ok st') : st'.Tidy := by
  have hvalue := tidyText_collapse st.text
  have hst' := hst.text []
  obtain ⟨page, entry, author, pending⟩ := st
  cases author with
  | some a =>
    cases h
    exact hst'.closeInAuthor (hst.author a rfl) hvalue
  | none =>
    cases entry with
    | some e => exact hst'.closeInEntry (hst.entry e rfl) hvalue h
    | none =>
      obtain ⟨p, hread, rfl⟩ := exists_of_map_eq_ok h
      exact ⟨tidy_withPageElement hst.page hvalue hread, hst.entry, hst.author⟩

/-! ## Events -/

/-- What a tag says goes into links and categories. -/
theorem readTag {tag : Tag} (hst : st.Tidy) (h : st.readTag tag = .ok st') : st'.Tidy := by
  obtain ⟨page, entry, author, pending⟩ := st
  obtain ⟨hpage, hentry, hauthor⟩ := hst
  have hentry' : ∀ e ∈ entry, ∀ links categories primaryCategory,
      Entry.Tidy { e with links, categories, primaryCategory } := fun e he _ _ _ =>
    have hold := hentry e he
    ⟨hold.id, hold.title, hold.summary, hold.comment, hold.journalRef, hold.doi, hold.authors⟩
  unfold State.readTag at h
  split at h
  · obtain ⟨link, -, h⟩ := exists_of_bind_eq_ok h
    cases entry with
    | some e =>
      cases h
      refine ⟨hpage, ?_, hauthor⟩
      rintro _ ⟨⟩
      exact hentry' e rfl _ _ _
    | none =>
      cases h
      exact ⟨⟨hpage.title, hpage.id, hpage.updated, hpage.entries⟩, hentry, hauthor⟩
  split at h
  · obtain ⟨term, -, h⟩ := exists_of_bind_eq_ok h
    cases entry <;> cases term <;> cases h
    · exact ⟨hpage, hentry, hauthor⟩
    · exact ⟨hpage, hentry, hauthor⟩
    · exact ⟨hpage, hentry, hauthor⟩
    · refine ⟨hpage, ?_, hauthor⟩
      rintro _ ⟨⟩
      exact hentry' _ rfl _ _ _
  split at h
  · obtain ⟨term, -, h⟩ := exists_of_bind_eq_ok h
    cases entry <;> cases term <;> cases h
    · exact ⟨hpage, hentry, hauthor⟩
    · exact ⟨hpage, hentry, hauthor⟩
    · exact ⟨hpage, hentry, hauthor⟩
    · refine ⟨hpage, ?_, hauthor⟩
      rintro _ ⟨⟩
      exact hentry' _ rfl _ _ _
  · cases h
    exact ⟨hpage, hentry, hauthor⟩

theorem begin {tag : Tag} (hst : st.Tidy) (h : st.begin tag = .ok st') : st'.Tidy := by
  have hst' := hst.text []
  unfold State.begin at h
  dsimp only at h
  split at h
  · cases h
    refine ⟨hst.page, ?_, hst.author⟩
    rintro e ⟨⟩
    exact Entry.tidy_default
  split at h
  · cases h
    refine ⟨hst.page, hst.entry, ?_⟩
    rintro a ⟨⟩
    exact ⟨tidyText_empty, tidyOptional_none⟩
  · exact hst'.readTag h

/-- **An event keeps what has been read tidy.** -/
theorem step {event : Event} (hst : st.Tidy) (h : st.step event = .ok st') : st'.Tidy := by
  cases event with
  | opening tag => exact hst.begin h
  | empty tag => exact hst.readTag h
  | closing name => exact hst.close h
  | text raw =>
    obtain ⟨s, -, rfl⟩ := step_text h
    exact hst.text _
  | characters s =>
    cases h
    exact hst.text _
  | aside =>
    cases h
    exact hst

theorem run {events : List Event} (hst : st.Tidy) (h : st.run events = .ok st') : st'.Tidy := by
  induction events generalizing st with
  | nil =>
    cases h
    exact hst
  | cons event events ih =>
    obtain ⟨mid, hmid, h⟩ := exists_of_bind_eq_ok h
    exact ih (hst.step hmid) h

theorem start : State.start.Tidy where
  page := ⟨tidyText_empty, tidyText_empty, tidyText_empty, fun _ h => nomatch h⟩
  entry _ h := nomatch h
  author _ h := nomatch h

end Tidy
end State

/-- **Every page that is read is tidy.** -/
theorem decode_tidy {document : String} {page : Page} (h : decode document = .ok page) :
    page.Tidy := by
  rw [← String.ofList_toList (s := document), decode_eq_ok_iff] at h
  obtain ⟨-, st, hrun, -, rfl⟩ := h
  exact (State.Tidy.start.run hrun).page

/-- A feed whose texts hold white space of several kinds, written plainly, by references and as
character data. -/
def spacedFeed : String :=
  "<feed><title> a&#x2003;<![CDATA[\n b]]></title><entry><id>\tx </id><author>" ++
    "<name>&#160;n\u3000m&#xA0;</name><affiliation> &#x85; </affiliation></author>" ++
    "<doi>\u3000</doi><comment> c  d </comment></entry></feed>"

def spacedFeedPage : Page :=
  { Page.default with
    title := "a b"
    entries := [{ Entry.default with
      id := "x"
      authors := [⟨"n m", none⟩]
      comment := some "c d" }] }

theorem decode_tidy_spacedFeed : decode spacedFeed = .ok spacedFeedPage ∧ spacedFeedPage.Tidy :=
  have h : decode spacedFeed = .ok spacedFeedPage := eq_ok_of_toOption (by decide +kernel)
  ⟨h, decode_tidy h⟩

end Feed
end PaperSearch
