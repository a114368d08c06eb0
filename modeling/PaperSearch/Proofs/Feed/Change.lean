import PaperSearch.Proofs.Feed.Observed

/-!
# Changes that a run does not meet

A change of the page and of the entry that is open (`State.Change`) may be made before or after an
event that does not read or write what it changes. Which events these are is said by the names of
the elements that they open and close (`Change.Commutes`); then the change may be made before or
after a run of them (`Commutes.run`).

What has been put into a page stays where it is: entries can be put before those of a page after
any run (`commutes_behind`, `gives_behind`). While an entry is open, the page waits for its end
(`run_in_entry`).
-/

namespace PaperSearch

/-- The local name of the element that an event opens or closes. -/
def Xml.Event.element? : Xml.Event → Option (List Char)
  | .opening tag => some tag.localName
  | .closing name => some (localName name)
  | _ => none

namespace Feed

open Xml

namespace State

/-- A change of the page, and one of the entry that is open. -/
structure Change where
  page : Page → Page
  entry : Entry → Entry

namespace Change

/-- The state with the change made. -/
def apply (k : Change) (st : State) : State :=
  { st with page := k.page st.page, entry := st.entry.map k.entry }

/-- The change may be made before or after everything that is done to pages and entries, but for
what elements with some names do. -/
structure Commutes (k : Change) (names : List (List Char)) : Prop where
  pageLink : ∀ (p : Page) link, k.page { p with links := p.links ++ [link] } =
    { k.page p with links := (k.page p).links ++ [link] }
  entryLink : ∀ (e : Entry) link, k.entry { e with links := e.links ++ [link] } =
    { k.entry e with links := (k.entry e).links ++ [link] }
  category : ∀ (e : Entry) category,
    k.entry { e with categories := e.categories ++ [category] } =
      { k.entry e with categories := (k.entry e).categories ++ [category] }
  primaryCategory : ∀ (e : Entry) category,
    k.entry { e with primaryCategory := some category } =
      { k.entry e with primaryCategory := some category }
  author : ∀ (e : Entry) author, k.entry { e with authors := e.authors ++ [author] } =
    { k.entry e with authors := (k.entry e).authors ++ [author] }
  pageElement : ∀ p name value,
    withPageElement (k.page p) name value = (withPageElement p name value).map k.page
  entryElement : ∀ e name value, name ∉ names →
    withEntryElement (k.entry e) name value = (withEntryElement e name value).map k.entry
  opens : "entry".toList ∉ names → k.entry Entry.default = Entry.default
  closes : "entry".toList ∉ names → ∀ (p : Page) e,
    k.page { p with entries := p.entries ++ [e] } =
      { k.page p with entries := (k.page p).entries ++ [k.entry e] }

namespace Commutes

variable {k : Change} {names : List (List Char)} {name : List Char} {tag : Tag}
  (h : k.Commutes names)

include h

theorem readTag (st : State) : (k.apply st).readTag tag = (st.readTag tag).map k.apply := by
  obtain ⟨page, entry, author, text⟩ := st
  unfold State.readTag
  split
  · cases readLink tag with
    | error fault => rfl
    | ok link =>
      cases entry with
      | none =>
        show Except.ok (State.mk _ none author text) =
          .ok (.mk (k.page { page with links := page.links ++ [link] }) none author text)
        rw [h.pageLink]
        rfl
      | some e =>
        show Except.ok (State.mk (k.page page) (some _) author text) =
          .ok (.mk (k.page page) (some (k.entry { e with links := e.links ++ [link] })) author text)
        rw [h.entryLink]
  split
  · cases readAttribute tag "term" with
    | error fault => cases entry <;> rfl
    | ok term? =>
      cases entry with
      | none => cases term? <;> rfl
      | some e =>
        cases term? with
        | none => rfl
        | some term =>
          show Except.ok (State.mk (k.page page) (some _) author text) = .ok (.mk (k.page page)
            (some (k.entry { e with categories := e.categories ++ [⟨term⟩] })) author text)
          rw [h.category]
  split
  · cases readAttribute tag "term" with
    | error fault => cases entry <;> rfl
    | ok term? =>
      cases entry with
      | none => cases term? <;> rfl
      | some e =>
        cases term? with
        | none => rfl
        | some term =>
          show Except.ok (State.mk (k.page page) (some _) author text) = .ok (.mk (k.page page)
            (some (k.entry { e with primaryCategory := some ⟨term⟩ })) author text)
          rw [h.primaryCategory]
  · rfl

theorem begin (hname : tag.localName ∉ names) (st : State) :
    (k.apply st).begin tag = (st.begin tag).map k.apply := by
  have hread : (k.apply { st with text := [] }).readTag tag =
      (State.readTag { st with text := [] } tag).map k.apply := h.readTag _
  simp only [State.begin, apply, Option.isSome_map] at hread ⊢
  split
  · rename_i hentry
    rw [hentry] at hname
    show Except.ok (State.mk (k.page st.page) (some Entry.default) st.author []) =
      .ok (.mk (k.page st.page) (some (k.entry Entry.default)) st.author [])
    rw [h.opens hname]
  split
  · rfl
  · exact hread

theorem close (hname : name ∉ names) (st : State) :
    (k.apply st).close name = (st.close name).map k.apply := by
  obtain ⟨page, entry, author, text⟩ := st
  cases author with
  | some a =>
    refine congrArg Except.ok ?_
    simp only [closeInAuthor, apply]
    split
    · rfl
    split
    · rfl
    split
    · cases entry with
      | none => rfl
      | some e =>
        show State.mk (k.page page) (some _) none [] =
          .mk (k.page page) (some (k.entry { e with authors := e.authors ++ [a] })) none []
        rw [h.author]
    · rfl
  | none =>
    cases entry with
    | none =>
      show (withPageElement (k.page page) name _).map _ =
        ((withPageElement page name _).map _).map _
      rw [h.pageElement, map_map, map_map]
      rfl
    | some e =>
      show State.closeInEntry _ (k.entry e) name _ = (State.closeInEntry _ e name _).map k.apply
      unfold closeInEntry
      split
      · rename_i hentry
        rw [hentry] at hname
        show Except.ok (State.mk _ none none []) =
          .ok (.mk (k.page { page with entries := page.entries ++ [e] }) none none [])
        rw [h.closes hname]
        rfl
      · rw [h.entryElement e name _ hname, map_map, map_map]
        rfl

theorem step {event : Event} (hevent : ∀ name ∈ event.element?, name ∉ names) (st : State) :
    (k.apply st).step event = (st.step event).map k.apply := by
  cases event with
  | opening tag => exact h.begin (hevent _ rfl) st
  | empty tag => exact h.readTag st
  | closing name => exact h.close (hevent _ rfl) st
  | text raw =>
    simp only [State.step]
    cases expand raw <;> rfl
  | characters s => rfl
  | aside => rfl

/-- **A change that events do not meet** may be made before or after a run of them. -/
theorem run {events : List Event}
    (hevents : ∀ event ∈ events, ∀ name ∈ event.element?, name ∉ names) (st : State) :
    (k.apply st).run events = (st.run events).map k.apply := by
  induction events generalizing st with
  | nil => rfl
  | cons event events ih =>
    have hrest := ih fun e he => hevents e (List.mem_cons_of_mem event he)
    rw [run_cons, run_cons, h.step (hevents event List.mem_cons_self)]
    cases st.step event with
    | error fault => rfl
    | ok mid => exact hrest mid

end Commutes

/-! ## Entries before those of a page -/

/-- Entries are put before those of the page. -/
def behind (entries : List Entry) : Change where
  page p := { p with entries := entries ++ p.entries }
  entry := id

/-- Nothing that is done to a page meets the entries that it has. -/
theorem commutes_behind (entries : List Entry) : (behind entries).Commutes [] where
  pageLink _ _ := rfl
  entryLink _ _ := rfl
  category _ _ := rfl
  primaryCategory _ _ := rfl
  author _ _ := rfl
  pageElement p name value := by
    unfold withPageElement
    repeat' split
    all_goals
      first
        | rfl
        | rw [map_map, behind]
  entryElement e name value _ := by
    show withEntryElement e name value = (withEntryElement e name value).map id
    cases withEntryElement e name value <;> rfl
  opens _ := rfl
  closes _ p e := by
    simp only [behind, id, List.append_assoc]

/-- A reading gives with more entries on the page what it gives without them, behind them. -/
theorem gives_behind (entries : List Entry) {st : State} {r : Reading} {page : Page} :
    ((behind entries).apply st).Gives r page ↔
      ∃ rest, st.Gives r rest ∧ page = { rest with entries := entries ++ rest.entries } := by
  have hrun : ((behind entries).apply st).run r.events =
      (st.run r.events).map (behind entries).apply :=
    (commutes_behind entries).run (fun _ _ _ _ => List.not_mem_nil) st
  constructor
  · rintro ⟨hfailure, last, hlast, hentry, rfl⟩
    rw [hrun] at hlast
    obtain ⟨without, hwithout, rfl⟩ := exists_of_map_eq_ok hlast
    exact ⟨without.page,
      ⟨hfailure, without, hwithout, Option.map_eq_none_iff.mp hentry, rfl⟩, rfl⟩
  · rintro ⟨_, ⟨hfailure, last, hlast, hentry, rfl⟩, rfl⟩
    refine ⟨hfailure, (behind entries).apply last, ?_, Option.map_eq_none_iff.mpr hentry, rfl⟩
    rw [hrun, hlast]
    rfl

end Change

/-! ## The entry that is open -/

theorem readTag_in_entry {page : Page} {e : Entry} {author : Option Author} {text : List Char}
    {tag : Tag} {st' : State} (h : readTag ⟨page, some e, author, text⟩ tag = .ok st') :
    ∃ e', st' = ⟨page, some e', author, text⟩ := by
  unfold readTag at h
  split at h
  · obtain ⟨link, -, h⟩ := exists_of_bind_eq_ok h
    cases h
    exact ⟨_, rfl⟩
  split at h
  · obtain ⟨term?, -, h⟩ := exists_of_bind_eq_ok h
    cases term? <;> cases h <;> exact ⟨_, rfl⟩
  split at h
  · obtain ⟨term?, -, h⟩ := exists_of_bind_eq_ok h
    cases term? <;> cases h <;> exact ⟨_, rfl⟩
  · cases h
    exact ⟨e, rfl⟩

theorem close_in_entry {page : Page} {e : Entry} {author : Option Author} {text : List Char}
    {name : List Char} {st' : State} (hname : name ≠ "entry".toList)
    (h : close ⟨page, some e, author, text⟩ name = .ok st') :
    ∃ e' author', st' = ⟨page, some e', author', []⟩ := by
  cases author with
  | some a =>
    cases h
    unfold closeInAuthor
    repeat' split
    all_goals exact ⟨_, _, rfl⟩
  | none =>
    replace h : closeInEntry _ e name _ = .ok st' := h
    rw [closeInEntry, if_neg hname] at h
    obtain ⟨e', -, rfl⟩ := exists_of_map_eq_ok h
    exact ⟨e', none, rfl⟩

/-- While an entry is open, only the begin and the end of an entry meet the page. -/
theorem step_in_entry {st st' : State} {event : Event}
    (hevent : ∀ name ∈ event.element?, name ≠ "entry".toList) (hopen : st.entry.isSome)
    (h : st.step event = .ok st') : st'.page = st.page ∧ st'.entry.isSome := by
  obtain ⟨page, entry, author, text⟩ := st
  obtain ⟨e, rfl⟩ := Option.isSome_iff_exists.mp hopen
  cases event with
  | opening tag =>
    replace h : begin ⟨page, some e, author, text⟩ tag = .ok st' := h
    simp only [begin, if_neg (hevent _ rfl)] at h
    split at h
    · cases h
      exact ⟨rfl, rfl⟩
    · obtain ⟨e', rfl⟩ := readTag_in_entry h
      exact ⟨rfl, rfl⟩
  | empty tag =>
    obtain ⟨e', rfl⟩ := readTag_in_entry h
    exact ⟨rfl, rfl⟩
  | closing name =>
    obtain ⟨e', author', rfl⟩ := close_in_entry (hevent _ rfl) h
    exact ⟨rfl, rfl⟩
  | text raw =>
    obtain ⟨s, -, rfl⟩ := step_text h
    exact ⟨rfl, rfl⟩
  | characters s =>
    cases h
    exact ⟨rfl, rfl⟩
  | aside =>
    cases h
    exact ⟨rfl, rfl⟩

theorem run_in_entry {st st' : State} {events : List Event}
    (hevents : ∀ event ∈ events, ∀ name ∈ event.element?, name ≠ "entry".toList)
    (hopen : st.entry.isSome) (h : st.run events = .ok st') :
    st'.page = st.page ∧ st'.entry.isSome := by
  induction events generalizing st with
  | nil =>
    cases h
    exact ⟨rfl, hopen⟩
  | cons event events ih =>
    obtain ⟨mid, hmid, h⟩ := exists_of_bind_eq_ok h
    obtain ⟨hpage, hmid⟩ := step_in_entry (hevents event List.mem_cons_self) hopen hmid
    obtain ⟨hrest, hopen'⟩ := ih (fun e he => hevents e (List.mem_cons_of_mem event he)) hmid h
    exact ⟨hrest.trans hpage, hopen'⟩

end State
end Feed
end PaperSearch
