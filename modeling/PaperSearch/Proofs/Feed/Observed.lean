import PaperSearch.Proofs.Feed.Apart
import PaperSearch.Proofs.Feed.Places

/-!
# What a document shows of a state

What stands behind a place can show all of the state that is reached there but the text that is
pending (`State.exists_text_of_gives_iff`).

* An entry and an author are open only while elements with their names are (`State.Housed`), so all
  that is open can be closed, and the page then holds it (`State.gives_closings`).
* Authors without a name that are added before that show whether an entry and an author were open
  (`State.authorCount_settled_enlisted`).
-/

namespace PaperSearch.Feed

open Xml

namespace State

variable {st st' : State} {name : List Char} {opened opened' others : List (List Char)}

/-! ## What is open -/

/-- An entry and an author are open in elements with their names, the author's in the entry's. -/
structure Housed (opened : List (List Char)) (st : State) : Prop where
  entry : st.entry.isSome → "entry".toList ∈ opened.map localName
  author : st.author.isSome → st.entry.isSome ∧ ∃ inner outer,
    opened.map localName = inner ++ "author".toList :: outer ∧ "entry".toList ∈ outer

/-- The text of an element has no part in what its end leaves open, and is not pending behind it. -/
theorem close_leaves (h : st.close name = .ok st') :
    st'.entry.isSome = (st.shut name).entry.isSome ∧
      st'.author.isSome = (st.shut name).author.isSome ∧ st'.text = [] := by
  obtain ⟨page, entry, author, text⟩ := st
  cases author with
  | some a =>
    cases h
    by_cases hname : name = "author".toList
    · subst hname
      exact ⟨rfl, rfl, rfl⟩
    · simp only [closeInAuthor, shut, if_neg hname]
      repeat' split
      all_goals exact ⟨rfl, rfl, rfl⟩
  | none =>
    cases entry with
    | some e =>
      simp only [close, closeInEntry, shut] at h ⊢
      by_cases hname : name = "entry".toList
      · rw [if_pos hname] at h ⊢
        cases h
        exact ⟨rfl, rfl, rfl⟩
      · rw [if_neg hname] at h ⊢
        obtain ⟨e', -, rfl⟩ := exists_of_map_eq_ok h
        exact ⟨rfl, rfl, rfl⟩
    | none =>
      obtain ⟨page', -, rfl⟩ := exists_of_map_eq_ok h
      exact ⟨rfl, rfl, rfl⟩

namespace Housed

theorem of_isSome (h : Housed opened st) (hentry : st'.entry.isSome = st.entry.isSome)
    (hauthor : st'.author.isSome = st.author.isSome) : Housed opened st' where
  entry := by
    rw [hentry]
    exact h.entry
  author := by
    rw [hentry, hauthor]
    exact h.author

theorem of_no_author (hauthor : st.author = none)
    (hentry : st.entry.isSome → "entry".toList ∈ opened.map localName) : Housed opened st where
  entry := hentry
  author hsome := by
    rw [hauthor] at hsome
    cases hsome

theorem cons (h : Housed opened st) (name : List Char) : Housed (name :: opened) st where
  entry hsome := List.mem_cons_of_mem _ (h.entry hsome)
  author hsome := by
    obtain ⟨hentry, inner, outer, heq, hmem⟩ := h.author hsome
    refine ⟨hentry, localName name :: inner, outer, ?_, hmem⟩
    rw [List.map_cons, heq]
    rfl

theorem begin {tag : Tag} (h : Housed opened st) (hbegin : st.begin tag = .ok st') :
    Housed (tag.name :: opened) st' := by
  unfold State.begin at hbegin
  dsimp only at hbegin
  split at hbegin
  · rename_i hname
    cases hbegin
    have hmem : "entry".toList ∈ (tag.name :: opened).map localName := by
      rw [List.map_cons, ← hname]
      exact List.mem_cons_self
    exact ⟨fun _ => hmem, fun hsome => ⟨rfl, ((h.cons tag.name).author hsome).2⟩⟩
  · split at hbegin
    · rename_i hname
      cases hbegin
      refine ⟨(h.cons tag.name).entry, fun _ => ⟨hname.2, [], opened.map localName, ?_,
        h.entry hname.2⟩⟩
      rw [List.map_cons, ← hname.1]
      rfl
    · obtain ⟨-, hauthor, hentry⟩ := readTag_ok hbegin
      exact (h.cons tag.name).of_isSome hentry (congrArg Option.isSome hauthor)

/-- What the innermost element was the house of is closed when the element ends. -/
theorem shut (h : Housed (name :: others) st) : Housed others (st.shut (localName name)) := by
  obtain ⟨page, entry, author, text⟩ := st
  cases author with
  | some a =>
    obtain ⟨hentry, inner, outer, heq, hmem⟩ := h.author rfl
    rw [List.map_cons] at heq
    dsimp only at hentry
    simp only [State.shut]
    cases inner with
    | nil =>
      obtain ⟨hname, hothers⟩ := List.cons.inj heq
      rw [if_pos hname]
      refine .of_no_author rfl fun _ => ?_
      rw [hothers]
      exact hmem
    | cons n inner =>
      obtain ⟨-, hothers⟩ := List.cons.inj heq
      have hentries : "entry".toList ∈ others.map localName := by
        rw [hothers]
        exact List.mem_append_right _ (List.mem_cons_of_mem _ hmem)
      split
      · exact .of_no_author rfl fun _ => hentries
      · exact ⟨fun _ => hentries, fun _ => ⟨hentry, inner, outer, hothers, hmem⟩⟩
  | none =>
    cases entry with
    | some e =>
      simp only [State.shut]
      split
      · refine .of_no_author rfl fun hsome => ?_
        cases hsome
      · rename_i hname
        refine .of_no_author rfl fun _ => ?_
        rcases List.mem_cons.mp (h.entry rfl) with heq | hmem
        · exact absurd heq.symm hname
        · exact hmem
    | none =>
      refine .of_no_author rfl fun hsome => ?_
      cases hsome

theorem step {event : Event} (h : Housed opened st) (hnest : nest opened event = .ok opened')
    (hstep : st.step event = .ok st') : Housed opened' st' := by
  cases event with
  | opening tag =>
    cases hnest
    exact h.begin hstep
  | empty tag =>
    cases hnest
    obtain ⟨-, hauthor, hentry⟩ := readTag_ok hstep
    exact h.of_isSome hentry (congrArg Option.isSome hauthor)
  | closing name =>
    cases opened with
    | nil => cases hnest
    | cons innermost others =>
      rw [nest] at hnest
      split at hnest
      · rename_i hname
        cases hnest
        rw [hname] at hstep
        obtain ⟨hentry, hauthor, -⟩ := close_leaves hstep
        exact h.shut.of_isSome hentry hauthor
      · cases hnest
  | text raw =>
    cases hnest
    obtain ⟨s, -, rfl⟩ := step_text hstep
    exact h.of_isSome rfl rfl
  | characters s =>
    cases hnest
    cases hstep
    exact h.of_isSome rfl rfl
  | aside =>
    cases hnest
    cases hstep
    exact h

theorem run {events : List Event} (h : Housed opened st)
    (hnest : nestAll opened events = .ok opened') (hrun : st.run events = .ok st') :
    Housed opened' st' := by
  induction events generalizing opened st with
  | nil =>
    cases hnest
    cases hrun
    exact h
  | cons event events ih =>
    obtain ⟨mid, hmid, hnest⟩ := exists_of_bind_eq_ok hnest
    obtain ⟨next, hnext, hrun⟩ := exists_of_bind_eq_ok hrun
    exact ih (h.step hmid hnext) hnest hrun

end Housed

/-! ## What is left when all is closed -/

/-- An entry with the author that is open in it. -/
def withOpenAuthor (e : Entry) : Option Author → Entry
  | none => e
  | some a => { e with authors := e.authors ++ [a] }

/-- The page when all that is open is closed. -/
def settled (st : State) : Page :=
  match st.entry with
  | none => st.page
  | some e => { st.page with entries := st.page.entries ++ [withOpenAuthor e st.author] }

theorem settled_shut (h : Housed (name :: others) st) :
    (st.shut (localName name)).settled = st.settled := by
  obtain ⟨page, entry, author, text⟩ := st
  cases author with
  | some a =>
    obtain ⟨e, rfl⟩ := Option.isSome_iff_exists.mp (h.author rfl).1
    simp only [shut]
    split <;> rfl
  | none =>
    cases entry with
    | some e =>
      simp only [shut]
      split <;> rfl
    | none => rfl

/-- The end tags of the elements. -/
def closings (opened : List (List Char)) : List Char :=
  opened.flatMap fun name => '<' :: '/' :: (name ++ ['>'])

/-- All of the elements can be ended, and none of them has text that is read. -/
def Plain (opened : List (List Char)) : Prop :=
  ∀ name ∈ opened, IsName name ∧ localName name ∉ textNames

instance : DecidablePred Plain := fun opened =>
  inferInstanceAs (Decidable (∀ name ∈ opened, IsName name ∧ localName name ∉ textNames))

/-- **All that is open can be closed**, and the page is then the one that is left. -/
theorem gives_closings (h : Housed opened st) (hopened : Plain opened) {page : Page} :
    st.Gives (readFrom opened (closings opened)) page ↔ page = st.settled := by
  induction opened generalizing st with
  | nil =>
    have hentry : st.entry = none :=
      Option.not_isSome_iff_eq_none.mp fun hsome => List.not_mem_nil (h.entry hsome)
    have hsettled : st.settled = st.page := by
      rw [settled, hentry]
    rw [closings, List.flatMap_nil, readFrom, hsettled]
    constructor
    · rintro ⟨-, last, hlast, -, rfl⟩
      cases hlast
      rfl
    · rintro rfl
      exact ⟨rfl, st, rfl, hentry, rfl⟩
  | cons name others ih =>
    obtain ⟨hname, htext⟩ := hopened name List.mem_cons_self
    have hnest : nest (name :: others) (.closing name) = .ok others := if_pos rfl
    have hrun : st.run [.closing name] = .ok (st.shut (localName name)) := by
      show Except.bind (st.close (localName name)) _ = _
      rw [close_eq_shut htext]
      rfl
    rw [closings, List.flatMap_cons, ← closings, (isMarkup_end hname).readFrom hnest,
      gives_after, exists_ok_and_iff hrun, ← settled_shut h]
    exact ih h.shut fun n hn => hopened n (List.mem_cons_of_mem name hn)

/-! ## Whether an entry and an author are open -/

def anonymous : Author :=
  ⟨"", none⟩

/-- An author of whom nothing is told. -/
def anonymousAuthor : Piece :=
  .element ⟨"author".toList⟩ (.last []) []

/-- An author of whom nothing is told takes the place of the one that is open. -/
def enlisted (st : State) : State :=
  match st.entry with
  | none => { st with text := [] }
  | some e =>
    { st with
      entry := some { e with authors := e.authors ++ [anonymous] }
      author := none
      text := [] }

theorem run_anonymousAuthor (h : st.author.isSome → st.entry.isSome) :
    st.run anonymousAuthor.events = .ok st.enlisted := by
  obtain ⟨page, entry, author, text⟩ := st
  cases entry with
  | some e => rfl
  | none =>
    obtain rfl : author = none := Option.not_isSome_iff_eq_none.mp fun hsome => nomatch h hsome
    rfl

theorem Housed.enlisted (h : Housed opened st) : Housed opened st.enlisted := by
  obtain ⟨page, entry, author, text⟩ := st
  cases entry with
  | some e => exact .of_no_author rfl h.entry
  | none => exact h.of_isSome rfl rfl

def authorCount (page : Page) : Nat :=
  (page.entries.flatMap Entry.authors).length

/-- How many authors more there are for two of whom nothing is told. -/
def gain (st : State) : Nat :=
  match st.entry, st.author with
  | none, _ => 0
  | some _, some _ => 1
  | some _, none => 2

theorem authorCount_settled_enlisted (st : State) :
    authorCount st.enlisted.enlisted.settled = authorCount st.settled + st.gain := by
  obtain ⟨page, entry, author, text⟩ := st
  cases entry with
  | none => rfl
  | some e =>
    cases author <;>
      simp [authorCount, settled, enlisted, gain, withOpenAuthor, Nat.add_assoc]

theorem isSome_eq_of_gain (h : st.author.isSome → st.entry.isSome)
    (h' : st'.author.isSome → st'.entry.isSome) (hgain : st.gain = st'.gain) :
    st.entry.isSome = st'.entry.isSome ∧ st.author.isSome = st'.author.isSome := by
  obtain ⟨page, entry, author, text⟩ := st
  obtain ⟨page', entry', author', text'⟩ := st'
  cases entry <;> cases author <;> cases entry' <;> cases author' <;> simp_all [gain]

theorem withOpenAuthor_inj {e e' : Entry} {author author' : Option Author}
    (hauthor : author.isSome = author'.isSome)
    (h : withOpenAuthor e author = withOpenAuthor e' author') : e' = e ∧ author' = author := by
  cases author with
  | none =>
    obtain rfl : author' = none := by simpa using hauthor
    exact ⟨h.symm, rfl⟩
  | some a =>
    obtain ⟨a', rfl⟩ := Option.isSome_iff_exists.mp hauthor.symm
    cases e
    cases e'
    simp_all [withOpenAuthor]

theorem eq_of_settled (hopen : st.author.isSome → st.entry.isSome)
    (hentry : st.entry.isSome = st'.entry.isSome)
    (hauthor : st.author.isSome = st'.author.isSome) (h : st.settled = st'.settled) :
    st'.page = st.page ∧ st'.entry = st.entry ∧ st'.author = st.author := by
  obtain ⟨page, entry, author, text⟩ := st
  obtain ⟨page', entry', author', text'⟩ := st'
  cases entry with
  | none =>
    obtain rfl : entry' = none := by simpa using hentry
    obtain rfl : author = none := by simpa using hopen
    obtain rfl : author' = none := by simpa using hauthor
    exact ⟨h.symm, rfl, rfl⟩
  | some e =>
    obtain ⟨e', rfl⟩ := Option.isSome_iff_exists.mp hentry.symm
    obtain ⟨hpage, hlast⟩ : page' = page ∧ withOpenAuthor e author = withOpenAuthor e' author' := by
      cases page
      cases page'
      simp_all [settled]
    obtain ⟨rfl, rfl⟩ := withOpenAuthor_inj hauthor hlast
    exact ⟨hpage, rfl, rfl⟩

theorem gives_anonymousAuthor (h : Housed opened st) {after : List Char} {page : Page} :
    st.Gives (readFrom opened (anonymousAuthor.write ++ after)) page ↔
      st.enlisted.Gives (readFrom opened after) page := by
  have hrun := run_anonymousAuthor fun hsome => (h.author hsome).1
  rw [gives_piece (by decide +kernel), exists_ok_and_iff hrun]

/-- **States that are not told apart by what follows differ in no more than pending text.** -/
theorem exists_text_of_gives_iff (h : Housed opened st) (h' : Housed opened st')
    (hopened : Plain opened)
    (hgives : ∀ after page,
      st.Gives (readFrom opened after) page ↔ st'.Gives (readFrom opened after) page) :
    ∃ text, st' = { st with text } := by
  have hsettled : st.settled = st'.settled :=
    (gives_closings h' hopened).mp ((hgives _ _).mp ((gives_closings h hopened).mpr rfl))
  -- Two authors in front of the end tags tell whether an entry and an author are open.
  have hprobe : ∀ {st : State} {page : Page}, Housed opened st →
      (st.Gives (readFrom opened (anonymousAuthor.write ++ (anonymousAuthor.write ++
        closings opened))) page ↔ page = st.enlisted.enlisted.settled) := by
    intro st page h
    rw [gives_anonymousAuthor h, gives_anonymousAuthor h.enlisted,
      gives_closings h.enlisted.enlisted hopened]
  have henlisted : st.enlisted.enlisted.settled = st'.enlisted.enlisted.settled :=
    (hprobe h').mp ((hgives _ _).mp ((hprobe h).mpr rfl))
  have hgain : st.gain = st'.gain := by
    have hcount := congrArg authorCount henlisted
    rw [authorCount_settled_enlisted, authorCount_settled_enlisted, hsettled] at hcount
    exact Nat.add_left_cancel hcount
  have hopen : st.author.isSome → st.entry.isSome := fun hsome => (h.author hsome).1
  obtain ⟨hentry, hauthor⟩ :=
    isSome_eq_of_gain hopen (fun hsome => (h'.author hsome).1) hgain
  obtain ⟨hpage, hentry, hauthor⟩ := eq_of_settled hopen hentry hauthor hsettled
  refine ⟨st'.text, ?_⟩
  rw [← hpage, ← hentry, ← hauthor]

end State
end PaperSearch.Feed
