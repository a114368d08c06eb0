import Mathlib.Data.List.Forall2
import PaperSearch.Proofs.Feed.Runs

/-!
# Entries apart

A feed of entries is read as each of them would be alone: `decode_apart`. Nothing is asked of what
the entries hold; entries may stand in entries and in authors.

* Nothing reads the page: `State.Frames` is kept by every event (`State.step_frames`) and so by
  every run (`State.run_frames`).
* Nothing stays open: where no entry and no author is open before a piece none is open behind it
  (`State.kept_clear`), whatever is opened in between.
* So an entry adds to every page what it adds to one (`exists_adds`).
-/

namespace PaperSearch.Feed

open Xml

namespace State

variable {st st' : State} {tag : Tag} {name : List Char} {events : List Event}

/-! ## Pages -/

/-- The action that leads from one state to the other does so on every page, with the same change
of the page, which only adds entries. -/
def Frames (action : State → Except Fault State) (st st' : State) : Prop :=
  ∃ (change : Page → Page) (added : List Entry),
    (∀ page, (change page).entries = page.entries ++ added) ∧
      ∀ page, action { st with page } = .ok { st' with page := change page }

namespace Frames

variable {action : State → Except Fault State}

/-- The page stays as it is. -/
theorem still (h : ∀ page, action { st with page } = .ok { st' with page }) :
    Frames action st st' :=
  ⟨id, [], fun page => (List.append_nil page.entries).symm, h⟩

/-- The page changes, but not in its entries. -/
theorem beside (change : Page → Page) (hchange : ∀ page, (change page).entries = page.entries)
    (h : ∀ page, action { st with page } = .ok { st' with page := change page }) :
    Frames action st st' :=
  ⟨change, [], fun page => by rw [hchange, List.append_nil], h⟩

end Frames

theorem readTag_ok (h : st.readTag tag = .ok st') :
    Frames (readTag · tag) st st' ∧ st'.author = st.author ∧
      st'.entry.isSome = st.entry.isSome := by
  obtain ⟨page, entry, author, text⟩ := st
  unfold readTag at h
  split at h
  · rename_i hlink
    obtain ⟨link, hread, h⟩ := exists_of_bind_eq_ok h
    cases entry with
    | some e =>
      cases h
      refine ⟨.still fun page => ?_, rfl, rfl⟩
      simp only [readTag, if_pos hlink, hread]
      rfl
    | none =>
      cases h
      refine ⟨.beside (fun page => { page with links := page.links ++ [link] }) (fun _ => rfl)
        fun page => ?_, rfl, rfl⟩
      simp only [readTag, if_pos hlink, hread]
      rfl
  · rename_i hlink
    split at h
    · rename_i hcategory
      obtain ⟨term, hread, h⟩ := exists_of_bind_eq_ok h
      cases entry <;> cases term <;> cases h <;> refine ⟨.still fun page => ?_, rfl, rfl⟩ <;>
        · simp only [readTag, if_neg hlink, if_pos hcategory, hread]
          rfl
    · rename_i hcategory
      split at h
      · rename_i hprimary
        obtain ⟨term, hread, h⟩ := exists_of_bind_eq_ok h
        cases entry <;> cases term <;> cases h <;> refine ⟨.still fun page => ?_, rfl, rfl⟩ <;>
          · simp only [readTag, if_neg hlink, if_neg hcategory, if_pos hprimary, hread]
            rfl
      · rename_i hprimary
        cases h
        refine ⟨.still fun page => ?_, rfl, rfl⟩
        simp only [readTag, if_neg hlink, if_neg hcategory, if_neg hprimary]

theorem begin_frames (h : st.begin tag = .ok st') : Frames (begin · tag) st st' := by
  obtain ⟨page, entry, author, text⟩ := st
  unfold begin at h
  dsimp only at h
  split at h
  · rename_i hentry
    cases h
    exact .still fun page => if_pos hentry
  · rename_i hentry
    split at h
    · rename_i hauthor
      cases h
      refine .still fun page => ?_
      simp only [begin, if_neg hentry]
      exact if_pos hauthor
    · rename_i hauthor
      obtain ⟨change, added, hadded, hread⟩ := (readTag_ok h).1
      refine ⟨change, added, hadded, fun page => ?_⟩
      simp only [begin, if_neg hentry]
      rw [if_neg hauthor]
      exact hread page

/-- A page takes a text as every page would. -/
theorem withPageElement_ok {page page' : Page} {value : String}
    (h : withPageElement page name value = .ok page') :
    ∃ change : Page → Page, (∀ page, (change page).entries = page.entries) ∧
      ∀ page, withPageElement page name value = .ok (change page) := by
  have hcount : ∀ put : Page → UInt64 → Page, (∀ page n, (put page n).entries = page.entries) →
      (readCount value).map (put page) = .ok page' →
      ∃ change : Page → Page, (∀ page, (change page).entries = page.entries) ∧
        ∀ page, (readCount value).map (put page) = .ok (change page) := by
    intro put hput hread
    cases hvalue : readCount value with
    | error fault => rw [hvalue] at hread; cases hread
    | ok n => exact ⟨(put · n), fun page => hput page n, fun page => rfl⟩
  unfold withPageElement at h ⊢
  repeat' split at h
  all_goals simp only [*, if_true, if_false]
  · exact ⟨fun page => { page with title := value }, fun _ => rfl, fun _ => rfl⟩
  · exact ⟨fun page => { page with id := value }, fun _ => rfl, fun _ => rfl⟩
  · exact ⟨fun page => { page with updated := value }, fun _ => rfl, fun _ => rfl⟩
  · exact hcount (fun page n => { page with total := n }) (fun _ _ => rfl) h
  · exact hcount (fun page n => { page with start := n }) (fun _ _ => rfl) h
  · exact hcount (fun page n => { page with perPage := n }) (fun _ _ => rfl) h
  · exact ⟨id, fun _ => rfl, fun _ => rfl⟩

/-- The end of an element closes an author or an entry that it names, and opens nothing. -/
theorem close_ok (h : st.close name = .ok st') :
    Frames (close · name) st st' ∧
      (st.author = none ∨ name = "author".toList → st'.author = none) ∧
      (st.author = none → st.entry = none ∨ name = "entry".toList → st'.entry = none) := by
  obtain ⟨page, entry, author, text⟩ := st
  cases author with
  | some a =>
    cases h
    refine ⟨.still fun page => congrArg Except.ok ?_, ?_, fun hnone => nomatch hnone⟩
    · unfold closeInAuthor
      repeat' split
      all_goals rfl
    · rintro (hnone | rfl)
      · cases hnone
      · rfl
  | none =>
    cases entry with
    | some e =>
      replace h : closeInEntry ⟨page, some e, none, []⟩ e name
          (String.ofList (Text.collapse text)) = .ok st' := h
      unfold closeInEntry at h
      split at h
      · rename_i hname
        cases h
        refine ⟨⟨fun page => { page with entries := page.entries ++ [e] }, [e], fun _ => rfl,
          fun page => ?_⟩, fun _ => rfl, fun _ _ => rfl⟩
        exact if_pos hname
      · rename_i hname
        cases hread : withEntryElement e name (String.ofList (Text.collapse text)) with
        | error fault => rw [hread] at h; cases h
        | ok e' =>
          rw [hread] at h
          cases h
          refine ⟨.still fun page => ?_, fun _ => rfl, fun _ hentry => ?_⟩
          · show closeInEntry ⟨page, some e, none, []⟩ e name _ = _
            rw [closeInEntry, if_neg hname, hread]
            rfl
          · rcases hentry with hnone | hentry
            · cases hnone
            · exact absurd hentry hname
    | none =>
      replace h : (withPageElement page name (String.ofList (Text.collapse text))).map
          (fun page => (⟨page, none, none, []⟩ : State)) = .ok st' := h
      cases hread : withPageElement page name (String.ofList (Text.collapse text)) with
      | error fault => rw [hread] at h; cases h
      | ok page' =>
        rw [hread] at h
        cases h
        obtain ⟨change, hentries, hchange⟩ := withPageElement_ok hread
        refine ⟨.beside change hentries fun page => ?_, fun _ => rfl, fun _ _ => rfl⟩
        show (withPageElement page name _).map _ = _
        rw [hchange]
        rfl

theorem step_frames {event : Event} (h : st.step event = .ok st') :
    Frames (step · event) st st' := by
  cases event with
  | opening tag => exact begin_frames h
  | empty tag => exact (readTag_ok h).1
  | closing name => exact (close_ok h).1
  | text raw =>
    obtain ⟨s, hraw, rfl⟩ := step_text h
    exact .still fun page => by simp only [step, hraw]
  | characters s =>
    cases h
    exact .still fun page => rfl
  | aside =>
    cases h
    exact .still fun page => rfl

/-- **Pages do not matter to a run.** -/
theorem run_frames (h : st.run events = .ok st') : Frames (run · events) st st' := by
  induction events generalizing st with
  | nil =>
    cases h
    exact .still fun page => rfl
  | cons event events ih =>
    rw [run_cons] at h
    obtain ⟨mid, hstep, h⟩ := exists_of_bind_eq_ok h
    obtain ⟨change, added, hadded, hfirst⟩ := step_frames hstep
    obtain ⟨change', added', hadded', hrest⟩ := ih h
    refine ⟨change' ∘ change, added ++ added', fun page => ?_, fun page => ?_⟩
    · rw [Function.comp_apply, hadded', hadded, List.append_assoc]
    · show (State.run _ (event :: events)) = _
      rw [run_cons]
      dsimp only at hfirst
      rw [hfirst]
      exact hrest (change page)

/-! ## What is open -/

/-- Neither an entry nor an author is open. -/
def Clear (st : State) : Prop :=
  st.entry = none ∧ st.author = none

theorem begin_author (h : st.begin tag = .ok st') (hname : tag.localName ≠ "author".toList) :
    st'.author = st.author := by
  unfold begin at h
  dsimp only at h
  split at h
  · cases h
    rfl
  · rw [if_neg fun hauthor => hname hauthor.1] at h
    exact (readTag_ok h).2.1

theorem begin_clear (hst : st.Clear) (h : st.begin tag = .ok st')
    (hname : tag.localName ≠ "entry".toList) : st'.Clear := by
  have hnone : ¬ (tag.localName = "author".toList ∧ st.entry.isSome) := by
    rw [hst.1]
    exact fun hauthor => nomatch hauthor.2
  unfold begin at h
  dsimp only at h
  rw [if_neg hname, if_neg hnone] at h
  obtain ⟨-, hauthor, hentry⟩ := readTag_ok h
  exact ⟨by simpa [hst.1] using hentry, hauthor.trans hst.2⟩

theorem kept_author : Kept fun st => st.author = none where
  text _ _ hst := hst
  empty _ _ _ hst h := (readTag_ok h).2.1.trans hst
  element _ _ _ _ tag _ hst hopen _ hcontent hclose := by
    by_cases hname : tag.localName = "author".toList
    · exact (close_ok hclose).2.1 (.inr hname)
    · exact (close_ok hclose).2.1 (.inl (hcontent ((begin_author hopen hname).trans hst)))

/-- **Pieces leave nothing open.** -/
theorem kept_clear : Kept Clear where
  text _ _ hst := hst
  empty _ _ _ hst h := by
    obtain ⟨-, hauthor, hentry⟩ := readTag_ok h
    exact ⟨by simpa [hst.1] using hentry, hauthor.trans hst.2⟩
  element _ opened _ _ tag content hst hopen hrun hcontent hclose := by
    obtain ⟨-, hauthor, hentry⟩ := close_ok hclose
    by_cases hname : tag.localName = "entry".toList
    · have hopened : opened.author = none := by
        rw [begin_author hopen (by rw [hname]; decide), hst.2]
      have hclosed := kept_author.content content hopened hrun
      exact ⟨hentry hclosed (.inr hname), hauthor (.inl hclosed)⟩
    · have hclosed := hcontent (begin_clear hst hopen hname)
      exact ⟨hentry hclosed.2 (.inl hclosed.1), hauthor (.inl hclosed.2)⟩

end State

/-! ## Entries -/

/-- The piece is an element with the local name `entry`. -/
def IsEntry : Piece → Prop
  | .element tag _ _ => tag.localName = "entry".toList
  | .empty tag => tag.localName = "entry".toList
  | _ => False

/-- Wherever nothing is open the piece adds these entries to the page, and leaves nothing open. -/
def Adds (piece : Piece) (entries : List Entry) : Prop :=
  ∀ st : State, st.Clear → ∃ st', st.run piece.events = .ok st' ∧ st'.Clear ∧
    st'.page.entries = st.page.entries ++ entries

/-- What an entry adds in one place it adds in all. -/
theorem exists_adds {piece : Piece} (hpiece : IsEntry piece) {st st' : State} (hst : st.Clear)
    (h : st.run piece.events = .ok st') :
    ∃ entries, Adds piece entries ∧ st'.page.entries = st.page.entries ++ entries := by
  have hst' : st'.Clear := State.kept_clear.piece piece hst h
  match piece, hpiece with
  | .element tag content gap, hname =>
    -- All that is left of the state before the entry is the page.
    have hopen : ∀ st : State, st.Clear → st.run (Piece.element tag content gap).events =
        State.run ⟨st.page, some Entry.default, none, []⟩
          (content.events ++ [.closing tag.name]) := by
      intro st hst
      have hbegin : st.begin tag = .ok ⟨st.page, some Entry.default, none, []⟩ := by
        rw [← hst.2]
        exact if_pos hname
      show Except.bind (st.begin tag) _ = _
      rw [hbegin]
      rfl
    rw [hopen st hst] at h
    obtain ⟨change, entries, hentries, hchange⟩ := State.run_frames h
    have hpage : st'.page = change st.page := by
      have hself := h.symm.trans (hchange st.page)
      exact congrArg State.page (Except.ok.inj hself)
    refine ⟨entries, fun other hother => ⟨{ st' with page := change other.page }, ?_, hst', ?_⟩, ?_⟩
    · rw [hopen other hother]
      exact hchange other.page
    · exact hentries other.page
    · rw [hpage, hentries]
  | .empty tag, hname =>
    have hread : ∀ st : State, st.run (Piece.empty tag).events = .ok st := by
      intro st
      have hstep : st.readTag tag = .ok st := by
        unfold State.readTag
        rw [hname]
        rfl
      show Except.bind (st.readTag tag) _ = _
      rw [hstep]
      rfl
    rw [hread] at h
    cases h
    exact ⟨[], fun st hst => ⟨st, hread st, hst, (List.append_nil _).symm⟩,
      (List.append_nil _).symm⟩

variable {pieces : List Piece} {content : Content}

/-- The entries that the content of a feed adds are those that its pieces add, in order. -/
theorem exists_adds_of_run (hspaced : Spaced pieces content) (hpieces : ∀ p ∈ pieces, IsEntry p)
    {st st' : State} (hst : st.Clear) (h : st.run content.events = .ok st') :
    ∃ added, List.Forall₂ Adds pieces added ∧ st'.Clear ∧
      st'.page.entries = st.page.entries ++ added.flatten := by
  induction hspaced generalizing st with
  | last hblank =>
    rw [Content.events, State.run_blank hblank] at h
    cases h
    exact ⟨[], .nil, hst, (List.append_nil _).symm⟩
  | @next text piece pieces content hblank _ ih =>
    rw [Content.events, State.run_append_of_run (State.run_blank hblank st)] at h
    obtain ⟨after, hpiece, hrest⟩ := State.exists_of_run_append h
    have hbefore : ({ st with text := st.text ++ text } : State).Clear := hst
    obtain ⟨entries, hadds, hentries⟩ :=
      exists_adds (hpieces piece List.mem_cons_self) hbefore hpiece
    have hafter : after.Clear := State.kept_clear.piece piece hbefore hpiece
    obtain ⟨added, hall, hst', hadded⟩ :=
      ih (fun p hp => hpieces p (List.mem_cons_of_mem piece hp)) hafter hrest
    refine ⟨entries :: added, .cons hadds hall, hst', ?_⟩
    rw [hadded, hentries, List.flatten_cons, List.append_assoc]

theorem run_of_adds (hspaced : Spaced pieces content) {added : List (List Entry)}
    (hadds : List.Forall₂ Adds pieces added) {st : State} (hst : st.Clear) :
    ∃ st', st.run content.events = .ok st' ∧ st'.Clear ∧
      st'.page.entries = st.page.entries ++ added.flatten := by
  induction hspaced generalizing st added with
  | @last text hblank =>
    cases hadds
    exact ⟨_, State.run_blank hblank st, hst, (List.append_nil _).symm⟩
  | @next text piece pieces content hblank _ ih =>
    obtain ⟨entries, added, hpiece, hrest, rfl⟩ := List.forall₂_cons_left_iff.mp hadds
    obtain ⟨after, hrun, hafter, hentries⟩ := hpiece { st with text := st.text ++ text } hst
    obtain ⟨st', hrun', hst', hadded⟩ := ih hrest hafter
    refine ⟨st', ?_, hst', ?_⟩
    · rw [Content.events, State.run_append_of_run (State.run_blank hblank st)]
      exact (State.run_append_of_run hrun).trans hrun'
    · rw [hadded, hentries, List.flatten_cons, List.append_assoc]

/-- A feed of entries is read when each of them can be read, and its entries are theirs. -/
theorem decode_iff {document : String} (hfeed : IsFeed pieces document)
    (hpieces : ∀ p ∈ pieces, IsEntry p) (entries : List Entry) :
    (∃ page, decode document = .ok page ∧ page.entries = entries) ↔
      ∃ added, List.Forall₂ Adds pieces added ∧ entries = added.flatten := by
  have hstart : State.start.Clear := ⟨rfl, rfl⟩
  obtain ⟨hvalid, hname, hspaced⟩ := hfeed
  rw [decode_feed hvalid hname]
  constructor
  · rintro ⟨page, h, rfl⟩
    obtain ⟨st, hrun, hdone⟩ := exists_of_bind_eq_ok h
    obtain ⟨added, hadds, hst, hadded⟩ := exists_adds_of_run hspaced hpieces hstart hrun
    rw [hst.1] at hdone
    cases hdone
    exact ⟨added, hadds, hadded⟩
  · rintro ⟨added, hadds, rfl⟩
    obtain ⟨st, hrun, hst, hadded⟩ := run_of_adds hspaced hadds hstart
    refine ⟨st.page, ?_, hadded⟩
    rw [hrun]
    show (if st.entry.isSome = true then _ else _) = _
    rw [hst.1]
    rfl

/-- What an entry adds is what a feed with it alone holds. -/
theorem decode_iff_adds {piece : Piece} (hpiece : IsEntry piece) {document : String}
    (hfeed : IsFeed [piece] document) (entries : List Entry) :
    (∃ page, decode document = .ok page ∧ page.entries = entries) ↔ Adds piece entries := by
  rw [decode_iff hfeed fun p hp => List.mem_singleton.mp hp ▸ hpiece]
  constructor
  · rintro ⟨added, hadds, rfl⟩
    obtain ⟨entries, added, hpiece, hnil, rfl⟩ := List.forall₂_cons_left_iff.mp hadds
    cases hnil
    rwa [List.flatten_singleton]
  · exact fun hadds => ⟨[entries], .cons hadds .nil, List.flatten_singleton.symm⟩

theorem forall₂_adds_iff (hpieces : ∀ p ∈ pieces, IsEntry p) {documents : List String}
    (hfeeds : List.Forall₂ (fun piece document => IsFeed [piece] document) pieces documents)
    (added : List (List Entry)) :
    List.Forall₂ Adds pieces added ↔
      ∃ pages, List.Forall₂ (fun document page => decode document = .ok page) documents pages ∧
        pages.map Page.entries = added := by
  induction hfeeds generalizing added with
  | nil =>
    rw [List.forall₂_nil_left_iff]
    constructor
    · rintro rfl
      exact ⟨[], .nil, rfl⟩
    · rintro ⟨pages, hpages, rfl⟩
      cases hpages
      rfl
  | @cons piece document pieces documents hfeed _ ih =>
    have hpiece := hpieces piece List.mem_cons_self
    have hrest := ih fun p hp => hpieces p (List.mem_cons_of_mem piece hp)
    constructor
    · intro hadds
      obtain ⟨entries, others, hentries, hothers, rfl⟩ := List.forall₂_cons_left_iff.mp hadds
      obtain ⟨page, hdecode, rfl⟩ := (decode_iff_adds hpiece hfeed entries).mpr hentries
      obtain ⟨pages, hpages, rfl⟩ := (hrest others).mp hothers
      exact ⟨page :: pages, .cons hdecode hpages, rfl⟩
    · rintro ⟨pages, hpages, rfl⟩
      obtain ⟨page, others, hdecode, hothers, rfl⟩ := List.forall₂_cons_left_iff.mp hpages
      exact .cons ((decode_iff_adds hpiece hfeed page.entries).mp ⟨page, hdecode, rfl⟩)
        ((hrest _).mpr ⟨others, hothers, rfl⟩)

/-- **Entries are read apart.** A feed of entries is read exactly when feeds with each of them alone
are read, and its entries are then the entries of those feeds in order. -/
theorem decode_apart (hpieces : ∀ p ∈ pieces, IsEntry p) {document : String}
    (hfeed : IsFeed pieces document) {documents : List String}
    (hfeeds : List.Forall₂ (fun piece document => IsFeed [piece] document) pieces documents)
    (entries : List Entry) :
    (∃ page, decode document = .ok page ∧ page.entries = entries) ↔
      ∃ pages, List.Forall₂ (fun document page => decode document = .ok page) documents pages ∧
        entries = pages.flatMap Page.entries := by
  rw [decode_iff hfeed hpieces]
  constructor
  · rintro ⟨added, hadds, rfl⟩
    obtain ⟨pages, hpages, rfl⟩ := (forall₂_adds_iff hpieces hfeeds added).mp hadds
    exact ⟨pages, hpages, rfl⟩
  · rintro ⟨pages, hpages, rfl⟩
    exact ⟨pages.map Page.entries,
      (forall₂_adds_iff hpieces hfeeds _).mpr ⟨pages, hpages, rfl⟩, rfl⟩

/-- An element with a name and one piece of character data. -/
def dataElement (name data : String) : Piece :=
  .element ⟨name.toList⟩ (.next [] (.characters data.toList) (.last [])) []

/-- An entry that another entry interrupts. -/
def interruptedEntry : Piece :=
  .element ⟨"entry".toList⟩
    (.next [] (dataElement "id" "first")
      (.next [] (.element ⟨"a:entry".toList⟩
          (.next [] (dataElement "id" "second") (.last [])) [' '])
        (.next [] (dataElement "title" "outside") (.last [])))) []

/-- An entry that begins again in one of its authors. -/
def restartedEntry : Piece :=
  .element ⟨"entry".toList⟩
    (.next [] (dataElement "id" "lost")
      (.next [] (.element ⟨"author".toList⟩
          (.next [] (dataElement "name" "N")
            (.next [] (.element ⟨"entry".toList⟩ (.last []) []) (.last []))) [])
        (.last []))) []

/-- Entries that are not what entries should be do not disturb each other. -/
theorem decode_apart_nested : ∃ page,
    decode (String.ofList (Piece.element ⟨"feed".toList⟩
      (spacedBy ['\n'] [interruptedEntry, restartedEntry]) []).write) = .ok page ∧
      page.entries = [{ Entry.default with id := "second" },
        { Entry.default with authors := [⟨"N", none⟩] }] := by
  have hinterrupted : interruptedEntry.Valid := by decide +kernel
  have hrestarted : restartedEntry.Valid := by decide +kernel
  have hpieces : ∀ p ∈ [interruptedEntry, restartedEntry], IsEntry p ∧ p.Valid := by
    rintro p (_ | ⟨_, _ | ⟨_, ⟨⟩⟩⟩)
    · exact ⟨rfl, hinterrupted⟩
    · exact ⟨rfl, hrestarted⟩
  have hnone : ∀ c ∈ ([] : List Char), Text.isBlank c = true := List.forall_mem_nil _
  have halone : ∀ p : Piece, p.Valid → ∀ q ∈ [p], q.Valid := fun p hp q hq =>
    List.mem_singleton.mp hq ▸ hp
  have hread : ∀ p page, p.Valid →
      State.start.run (p.events ++ []) = .ok ⟨page, none, none, []⟩ →
      decode (String.ofList (Piece.element ⟨"feed".toList⟩ (spacedBy [] [p]) []).write) =
        .ok page := by
    intro p page hp hrun
    have hvalid : (Piece.element ⟨"feed".toList⟩ (spacedBy [] [p]) []).Valid :=
      ⟨by decide, by decide, valid_spacedBy hnone (halone p hp), List.forall_mem_nil _⟩
    refine (decode_feed hvalid rfl).trans ?_
    show Except.bind (State.start.run (p.events ++ [])) _ = _
    rw [hrun]
    rfl
  have hfirst := hread interruptedEntry
    { Page.default with title := "outside", entries := [{ Entry.default with id := "second" }] }
    hinterrupted rfl
  have hsecond := hread restartedEntry
    { Page.default with entries := [{ Entry.default with authors := [⟨"N", none⟩] }] }
    hrestarted rfl
  exact (decode_apart (fun p hp => (hpieces p hp).1)
    (isFeed_spacedBy (by decide) fun p hp => (hpieces p hp).2)
    (.cons (isFeed_spacedBy hnone (halone _ hinterrupted))
      (.cons (isFeed_spacedBy hnone (halone _ hrestarted)) .nil))
    _).mpr ⟨_, .cons hfirst (.cons hsecond .nil), rfl⟩

end PaperSearch.Feed
