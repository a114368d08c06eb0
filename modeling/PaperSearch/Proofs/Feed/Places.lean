import PaperSearch.Proofs.Feed.Written
import PaperSearch.Proofs.Xml.Places
import PaperSearch.Proofs.Xml.Spelling

/-!
# Decoding around a place

What a document gives is what is read from the state that is reached at a place
(`decode_append`). A text may be divided by the place where its references are whole
(`decode_append_text`).

Text that is pending at a place is of consequence only where the innermost element is one whose text
is read: the rest of the document is read alike from states that differ in other text
(`State.Alike.gives`).
-/

namespace PaperSearch.Feed

open Xml

namespace State

variable {st st' : State} {page : Page} {events : List Event}

/-! ## What a reading gives -/

/-- From the state on the reading leads to the page, and to no open entry. -/
def Gives (st : State) (r : Reading) (page : Page) : Prop :=
  r.failure = none ∧ ∃ st', st.run r.events = .ok st' ∧ st'.entry = none ∧ st'.page = page

theorem gives_after {r : Reading} :
    st.Gives (r.after events) page ↔ ∃ mid, st.run events = .ok mid ∧ mid.Gives r page := by
  constructor
  · rintro ⟨hfailure, last, hrun, hlast⟩
    obtain ⟨mid, hmid, hrest⟩ := exists_of_run_append hrun
    exact ⟨mid, hmid, hfailure, last, hrest, hlast⟩
  · rintro ⟨mid, hmid, hfailure, last, hrest, hlast⟩
    refine ⟨hfailure, last, ?_, hlast⟩
    rw [Reading.after, run_append_of_run hmid]
    exact hrest

theorem gives_piece {piece : Piece} (h : piece.Valid) {opened : List (List Char)}
    {after : List Char} :
    st.Gives (readFrom opened (piece.write ++ after)) page ↔
      ∃ mid, st.run piece.events = .ok mid ∧ mid.Gives (readFrom opened after) page := by
  rw [readFrom_piece piece opened after h, gives_after]

end State

section

variable {document before after : List Char} {opened : List (List Char)} {page : Page}

theorem follow_eq_ok_iff {r : Reading} {st st' : State} :
    st.follow document r = .ok st' ↔ r.failure = none ∧ st.run r.events = .ok st' := by
  obtain ⟨events, failure⟩ := r
  cases failure with
  | none =>
    rw [and_iff_right rfl]
    show Except.bind (st.run events) _ = _ ↔ _
    cases st.run events <;> exact Iff.rfl
  | some f =>
    refine iff_of_false (fun h => ?_) fun h => nomatch h.1
    obtain ⟨mid, -, hmid⟩ := exists_of_bind_eq_ok h
    cases hmid

theorem decode_eq_ok_iff :
    decode (String.ofList document) = .ok page ↔ State.start.Gives (read document) page := by
  have hdecode : decode (String.ofList document) =
      (State.start.follow document (read document)).bind fun st =>
        if st.entry.isSome then .error .unterminatedEntry else .ok st.page := by
    rw [decode, String.toList_ofList]
    rfl
  rw [hdecode]
  constructor
  · intro h
    obtain ⟨st, hfollow, h⟩ := exists_of_bind_eq_ok h
    obtain ⟨hfailure, hrun⟩ := follow_eq_ok_iff.mp hfollow
    split at h
    · cases h
    · rename_i hentry
      cases h
      exact ⟨hfailure, st, hrun, Option.not_isSome_iff_eq_none.mp hentry, rfl⟩
  · rintro ⟨hfailure, st, hrun, hentry, rfl⟩
    rw [follow_eq_ok_iff.mpr ⟨hfailure, hrun⟩]
    show (if st.entry.isSome then _ else _) = _
    rw [hentry]
    rfl

/-- **A document is read up to a place and then on from the state that is reached there.** -/
theorem decode_append (h : openAfter? before = some opened)
    (hafter : ∀ c ∈ after.head?, c = '<') :
    decode (String.ofList (before ++ after)) = .ok page ↔
      ∃ st, State.start.run (read before).events = .ok st ∧
        st.Gives (readFrom opened after) page := by
  rw [decode_eq_ok_iff, read_append h hafter, State.gives_after]

theorem head?_write_append (piece : Piece) (after : List Char) :
    ∀ c ∈ (piece.write ++ after).head?, c = '<' := by
  cases piece <;> rintro c ⟨⟩ <;> rfl

theorem decode_piece (h : openAfter? before = some opened) {piece : Piece} (hvalid : piece.Valid) :
    decode (String.ofList (before ++ (piece.write ++ after))) = .ok page ↔
      ∃ st, State.start.run (read before).events = .ok st ∧
        ∃ mid, st.run piece.events = .ok mid ∧ mid.Gives (readFrom opened after) page := by
  rw [decode_append h (head?_write_append piece after)]
  simp only [State.gives_piece hvalid]

end

/-! ## Pending text -/

/-- The elements whose text is read. -/
def textNames : List (List Char) :=
  ["name".toList, "affiliation".toList, "id".toList, "title".toList, "summary".toList,
    "published".toList, "updated".toList, "comment".toList, "journal_ref".toList, "doi".toList,
    "totalResults".toList, "startIndex".toList, "itemsPerPage".toList]

namespace State

variable {st st' : State} {name : List Char} {opened opened' : List (List Char)}

theorem readTag_text (st : State) (text : List Char) (tag : Tag) :
    readTag { st with text } tag = (st.readTag tag).map fun st' => { st' with text } := by
  obtain ⟨page, entry, author, pending⟩ := st
  unfold readTag
  split
  · cases readLink tag with
    | error fault => rfl
    | ok link => cases entry <;> rfl
  split
  · cases readAttribute tag "term" with
    | error fault => cases entry <;> rfl
    | ok term => cases entry <;> cases term <;> rfl
  split
  · cases readAttribute tag "term" with
    | error fault => cases entry <;> rfl
    | ok term => cases entry <;> cases term <;> rfl
  · rfl

/-- The elements that say something by their attributes. -/
def attributeNames : List (List Char) :=
  ["link".toList, "category".toList, "primary_category".toList]

theorem readTag_plain {tag : Tag} (h : tag.localName ∉ attributeNames) (st : State) :
    st.readTag tag = .ok st := by
  simp only [attributeNames, List.mem_cons, List.not_mem_nil, or_false, not_or] at h
  obtain ⟨hlink, hcategory, hprimary⟩ := h
  rw [readTag, if_neg hlink, if_neg hcategory, if_neg hprimary]

/-- An element ends whose text is not read. It may close an author or an entry. -/
def shut (st : State) (name : List Char) : State :=
  match st.author, st.entry with
  | some a, entry =>
    if name = "author".toList then
      { st with
        author := none
        entry := entry.map fun e => { e with authors := e.authors ++ [a] }
        text := [] }
    else { st with text := [] }
  | none, some e =>
    if name = "entry".toList then
      { st with
        entry := none
        page := { st.page with entries := st.page.entries ++ [e] }
        text := [] }
    else { st with text := [] }
  | none, none => { st with text := [] }

theorem withEntryElement_unread (h : name ∉ textNames) (e : Entry) (value : String) :
    withEntryElement e name value = .ok e := by
  simp only [textNames, List.mem_cons, List.not_mem_nil, or_false, not_or] at h
  obtain ⟨-, -, hid, htitle, hsummary, hpublished, hupdated, hcomment, hjournal, hdoi, -⟩ := h
  rw [withEntryElement, if_neg hid, if_neg htitle, if_neg hsummary, if_neg hpublished,
    if_neg hupdated, if_neg hcomment, if_neg hjournal, if_neg hdoi]

theorem withPageElement_unread (h : name ∉ textNames) (p : Page) (value : String) :
    withPageElement p name value = .ok p := by
  simp only [textNames, List.mem_cons, List.not_mem_nil, or_false, not_or] at h
  obtain ⟨-, -, hid, htitle, -, -, hupdated, -, -, -, htotal, hstart, hper⟩ := h
  rw [withPageElement, if_neg htitle, if_neg hid, if_neg hupdated, if_neg htotal, if_neg hstart,
    if_neg hper]

theorem close_eq_shut (h : name ∉ textNames) (st : State) : st.close name = .ok (st.shut name) := by
  have hname : name ≠ "name".toList := fun heq => h (heq ▸ by decide)
  have haffiliation : name ≠ "affiliation".toList := fun heq => h (heq ▸ by decide)
  obtain ⟨page, entry, author, text⟩ := st
  cases author with
  | some a => simp only [close, closeInAuthor, shut, if_neg hname, if_neg haffiliation]
  | none =>
    cases entry with
    | some e =>
      simp only [close, closeInEntry, shut, withEntryElement_unread h]
      split <;> rfl
    | none =>
      simp only [close, shut, withPageElement_unread h]
      rfl

/-- The end of an element that neither has text nor closes anything does nothing else. -/
theorem close_quiet (htext : name ∉ textNames) (hentry : name ≠ "entry".toList)
    (hauthor : name ≠ "author".toList) (st : State) :
    st.close name = .ok { st with text := [] } := by
  obtain ⟨page, entry, author, text⟩ := st
  rw [close_eq_shut htext]
  cases author with
  | some a => exact congrArg Except.ok (if_neg hauthor)
  | none =>
    cases entry with
    | some e => exact congrArg Except.ok (if_neg hentry)
    | none => rfl

/-- Where these elements are open the states are equal but for pending text of no consequence:
the texts are equal but for white space, however they go on, or they are not read. -/
inductive Alike (opened : List (List Char)) (st : State) : State → Prop where
  | collapse {text : List Char}
    (h : ∀ more, Text.collapse (st.text ++ more) = Text.collapse (text ++ more)) :
    Alike opened st { st with text }
  | unread {text : List Char} (h : ∀ name ∈ opened.head?, localName name ∉ textNames) :
    Alike opened st { st with text }

namespace Alike

theorem refl (opened : List (List Char)) (st : State) : Alike opened st st :=
  .collapse fun _ => rfl

theorem symm (h : Alike opened st st') : Alike opened st' st := by
  cases h with
  | collapse h => exact .collapse fun more => (h more).symm
  | unread h => exact .unread h

/-- Text that follows does not tell the states apart. -/
theorem append (h : Alike opened st st') (s : List Char) :
    Alike opened { st with text := st.text ++ s } { st' with text := st'.text ++ s } := by
  cases h with
  | @collapse text h =>
    have hmore : ∀ more,
        Text.collapse (st.text ++ s ++ more) = Text.collapse (text ++ s ++ more) := by
      intro more
      rw [List.append_assoc, List.append_assoc]
      exact h (s ++ more)
    exact .collapse hmore
  | unread h => exact .unread h

/-- The tag of an element without content leaves pending text alone. -/
theorem readTag {tag : Tag} {last : State} (h : Alike opened st st')
    (hread : st.readTag tag = .ok last) :
    ∃ last', st'.readTag tag = .ok last' ∧ Alike opened last last' := by
  have hany : ∀ text, State.readTag { st with text } tag = .ok { last with text } := by
    intro text
    rw [readTag_text, hread]
    rfl
  have hsame : Except.ok last = .ok { last with text := st.text } := hread.symm.trans (hany st.text)
  have htext : last.text = st.text := by
    rw [Except.ok.inj hsame]
  cases h with
  | @collapse text h =>
    rw [← htext] at h
    exact ⟨{ last with text }, hany text, .collapse h⟩
  | @unread text h => exact ⟨{ last with text }, hany text, .unread h⟩

/-- The end of the innermost element does with both texts the same. -/
theorem close {name : List Char} {others : List (List Char)} (h : Alike (name :: others) st st') :
    st'.close (localName name) = st.close (localName name) := by
  cases h with
  | @collapse text h =>
    have hcollapse := h []
    rw [List.append_nil, List.append_nil] at hcollapse
    rw [State.close, State.close, hcollapse]
  | unread h =>
    rw [close_eq_shut (h name rfl), close_eq_shut (h name rfl)]
    rfl

theorem step {event : Event} {last : State} (h : Alike opened st st')
    (hnest : nest opened event = .ok opened') (hstep : st.step event = .ok last) :
    ∃ last', st'.step event = .ok last' ∧ Alike opened' last last' := by
  cases event with
  | opening tag =>
    have hbegin : st'.begin tag = st.begin tag := by
      cases h <;> rfl
    exact ⟨last, hbegin.trans hstep, .refl opened' last⟩
  | empty tag =>
    cases hnest
    exact h.readTag hstep
  | closing name =>
    refine ⟨last, ?_, .refl opened' last⟩
    cases opened with
    | nil => cases hnest
    | cons innermost others =>
      rw [nest] at hnest
      split at hnest
      · rename_i hname
        rw [hname] at hstep ⊢
        exact h.close.trans hstep
      · cases hnest
  | text raw =>
    cases hnest
    obtain ⟨s, hraw, rfl⟩ := step_text hstep
    refine ⟨{ st' with text := st'.text ++ s }, ?_, h.append s⟩
    rw [State.step, hraw]
  | characters s =>
    cases hnest
    cases hstep
    exact ⟨_, rfl, h.append s⟩
  | aside =>
    cases hnest
    cases hstep
    exact ⟨st', rfl, h⟩

theorem run {events : List Event} {last : State} (h : Alike opened st st')
    (hnest : nestAll opened events = .ok opened') (hrun : st.run events = .ok last) :
    ∃ last', st'.run events = .ok last' ∧ Alike opened' last last' := by
  induction events generalizing opened st st' with
  | nil =>
    cases hnest
    cases hrun
    exact ⟨st', rfl, h⟩
  | cons event events ih =>
    obtain ⟨mid, hmid, hnest⟩ := exists_of_bind_eq_ok hnest
    obtain ⟨next, hnext, hrun⟩ := exists_of_bind_eq_ok hrun
    obtain ⟨next', hnext', halike⟩ := h.step hmid hnext
    obtain ⟨last', hlast', hlast⟩ := ih halike hnest hrun
    refine ⟨last', ?_, hlast⟩
    rw [run_cons, hnext']
    exact hlast'

/-- **Pending text of no consequence does not change what is given.** -/
theorem gives {after : List Char} {page : Page} (h : Alike opened st st') :
    st.Gives (readFrom opened after) page ↔ st'.Gives (readFrom opened after) page := by
  obtain ⟨inner, hinner⟩ := nestAll_readFrom opened after
  have himp : ∀ st st' : State, Alike opened st st' →
      st.Gives (readFrom opened after) page → st'.Gives (readFrom opened after) page := by
    rintro st st' halike ⟨hfailure, last, hrun, hentry, hpage⟩
    obtain ⟨last', hrun', hlast⟩ := halike.run hinner hrun
    refine ⟨hfailure, last', hrun', ?_⟩
    cases hlast <;> exact ⟨hentry, hpage⟩
  exact ⟨himp st st' h, himp st' st h.symm⟩

end Alike
end State

/-! ## References that are whole -/

/-- The text ends in a reference that has no end. -/
def EndsInReference (s : List Char) : Prop :=
  ∃ front rest, s = front ++ '&' :: rest ∧ (openAfter? front).isSome ∧ '<' ∉ rest ∧ ';' ∉ rest

namespace State

variable {st st' : State} {opened : List (List Char)} {page : Page}

/-- Text is followed when it spells something. -/
theorem run_textEvents_iff {raw : List Char} (hraw : '<' ∉ raw) :
    st.run (textEvents raw) = .ok st' ↔
      ∃ s, Spells raw s ∧ st' = { st with text := st.text ++ s } := by
  constructor
  · intro h
    unfold textEvents at h
    split at h
    · rename_i hempty
      cases h
      rw [List.isEmpty_iff.mp hempty]
      refine ⟨[], .nil, ?_⟩
      rw [List.append_nil]
    · obtain ⟨mid, hstep, h⟩ := exists_of_bind_eq_ok h
      cases h
      obtain ⟨s, hread, rfl⟩ := step_text hstep
      exact ⟨s, (expand_eq_ok_iff hraw).mp hread, rfl⟩
  · rintro ⟨s, hs, rfl⟩
    exact run_textEvents ((expand_eq_ok_iff hraw).mpr hs) st

theorem gives_text {text rest : List Char} (htext : '<' ∉ text)
    (hrest : ∀ c ∈ rest.head?, c = '<') :
    st.Gives (readFrom opened (text ++ rest)) page ↔
      ∃ s, Spells text s ∧
        Gives { st with text := st.text ++ s } (readFrom opened rest) page := by
  rw [readFrom_text htext hrest, gives_after]
  constructor
  · rintro ⟨mid, hmid, hgives⟩
    obtain ⟨s, hs, rfl⟩ := (run_textEvents_iff htext).mp hmid
    exact ⟨s, hs, hgives⟩
  · rintro ⟨s, hs, hgives⟩
    exact ⟨_, (run_textEvents_iff htext).mpr ⟨s, hs, rfl⟩, hgives⟩

/-- A text whose references are whole is followed before the text behind it. -/
theorem run_textEvents_append {raw more : List Char} (hraw : '<' ∉ raw) (hmore : '<' ∉ more)
    (hwhole : ∀ front rest, raw = front ++ '&' :: rest → ';' ∈ rest) :
    st.run (textEvents (raw ++ more)) = .ok st' ↔
      ∃ mid, st.run (textEvents raw) = .ok mid ∧
        ∃ s, Spells more s ∧ st' = { mid with text := mid.text ++ s } := by
  have hmarkup : '<' ∉ raw ++ more := by
    rw [List.mem_append, not_or]
    exact ⟨hraw, hmore⟩
  rw [run_textEvents_iff hmarkup]
  constructor
  · rintro ⟨t, ht, rfl⟩
    have hspells : ∃ s, Spells raw s := by
      by_contra hnone
      obtain ⟨front, rest, hfront, hend⟩ := exists_unfinished ht hnone
      exact hend (hwhole front rest hfront)
    obtain ⟨s, hs⟩ := hspells
    obtain ⟨s', hs', rfl⟩ := (spells_append_iff hmore hs).mp ht
    refine ⟨_, (run_textEvents_iff hraw).mpr ⟨s, hs, rfl⟩, s', hs', ?_⟩
    rw [List.append_assoc]
  · rintro ⟨mid, hmid, s', hs', rfl⟩
    obtain ⟨s, hs, rfl⟩ := (run_textEvents_iff hraw).mp hmid
    refine ⟨s ++ s', (spells_append_iff hmore hs).mpr ⟨s', hs', rfl⟩, ?_⟩
    rw [List.append_assoc]

end State

section

variable {before after : List Char} {opened : List (List Char)} {page : Page}

/-- No document can be read past a reference without an end. -/
theorem EndsInReference.run_ne_ok {s : List Char} (h : EndsInReference s) (st : State) :
    State.start.run (read s).events ≠ .ok st := by
  obtain ⟨front, rest, rfl, hopen, hmarkup, hend⟩ := h
  obtain ⟨opened, hopened⟩ := Option.isSome_iff_exists.mp hopen
  obtain ⟨events, pending, hpending, -, -, hread⟩ := exists_pending hopened
  have htext : '<' ∉ '&' :: rest := by
    rw [List.mem_cons, not_or]
    exact ⟨by decide, hmarkup⟩
  have hwhole : '<' ∉ pending ++ '&' :: rest := by
    rw [List.mem_append, not_or]
    exact ⟨hpending, htext⟩
  have hread := hread ('&' :: rest) [] htext (by rintro c ⟨⟩) (.inr (by rintro c ⟨⟩; decide))
  rw [List.append_nil, readFrom] at hread
  rw [hread]
  intro hrun
  rw [Reading.after, List.append_nil] at hrun
  obtain ⟨mid, -, hlast⟩ := State.exists_of_run_append hrun
  obtain ⟨s, hs, -⟩ := (State.run_textEvents_iff hwhole).mp hlast
  exact hend (hs.mem_of_eq rfl)

/-- **A document is read up to a place and then on** also where text goes on behind the place, if it
is no reference that goes on. -/
theorem decode_append_text (h : openAfter? before = some opened) (hne : before ≠ [])
    (hreference : EndsInReference before → ∀ c ∈ after.head?, c = '<') :
    decode (String.ofList (before ++ after)) = .ok page ↔
      ∃ st, State.start.run (read before).events = .ok st ∧
        st.Gives (readFrom opened after) page := by
  by_cases hbefore : EndsInReference before
  · exact decode_append h (hreference hbefore)
  obtain ⟨events, pending, hpending, hevents, hfront, hread⟩ := exists_pending h
  obtain ⟨text, rest, rfl, htext, hrest, -⟩ := exists_text_append after
  have hwhole : ∀ front rest, pending = front ++ '&' :: rest → ';' ∈ rest := by
    intro front rest heq
    by_contra hend
    obtain ⟨place, hplace, hopen⟩ := hfront front ('&' :: rest) heq
    refine hbefore ⟨place, rest, hplace, by rw [hopen]; rfl, fun hmem => hpending ?_, hend⟩
    rw [heq]
    exact List.mem_append_right _ (List.mem_cons_of_mem _ hmem)
  rw [decode_eq_ok_iff, hread text rest htext hrest (.inl hne), State.gives_after, hevents]
  simp only [State.gives_text htext hrest]
  constructor
  · rintro ⟨mid, hmid, hgives⟩
    obtain ⟨first, hfirst, hmid⟩ := State.exists_of_run_append hmid
    obtain ⟨st, hst, s, hs, rfl⟩ :=
      (State.run_textEvents_append hpending htext hwhole).mp hmid
    refine ⟨st, ?_, s, hs, hgives⟩
    rw [State.run_append_of_run hfirst]
    exact hst
  · rintro ⟨st, hst, s, hs, hgives⟩
    obtain ⟨first, hfirst, hst⟩ := State.exists_of_run_append hst
    refine ⟨_, ?_, hgives⟩
    rw [State.run_append_of_run hfirst]
    exact (State.run_textEvents_append hpending htext hwhole).mpr ⟨st, hst, s, hs, rfl⟩

end

end PaperSearch.Feed
