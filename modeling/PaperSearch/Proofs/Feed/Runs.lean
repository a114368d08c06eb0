import PaperSearch.Feed.Decoder
import PaperSearch.Proofs.Results
import PaperSearch.Proofs.Xml.Escape

/-!
# Runs of the decoder

The decoder follows the events of a document one after another. The document is a feed with pieces
of markup in it and white space between them (`IsFeed`), and decoding it is following the events
of what the feed holds (`decode_feed`).

A run over a piece follows the tree of the piece, so what text, tags and elements keep of a state
all pieces keep (`State.Kept`).
-/

namespace PaperSearch.Feed

open Xml

/-! ## Documents -/

/-- Nothing but white space stands between the pieces of the content. -/
inductive Spaced : List Piece → Content → Prop where
  | last {text : List Char} (blank : ∀ c ∈ text, Text.isBlank c = true) : Spaced [] (.last text)
  | next {text : List Char} {piece : Piece} {pieces : List Piece} {content : Content}
    (blank : ∀ c ∈ text, Text.isBlank c = true) (rest : Spaced pieces content) :
    Spaced (piece :: pieces) (.next text piece content)

/-- The document is an element `feed` that holds the pieces. -/
inductive IsFeed (pieces : List Piece) : String → Prop where
  | intro {tag : Tag} {content : Content} {gap : List Char}
    (valid : (Piece.element tag content gap).Valid) (name : tag.localName = "feed".toList)
    (spaced : Spaced pieces content) :
    IsFeed pieces (String.ofList (Piece.element tag content gap).write)

/-- Content with the same white space before each of the pieces. -/
def spacedBy (space : List Char) (pieces : List Piece) : Content :=
  pieces.foldr (Content.next space) (.last [])

section

variable {space : List Char} (hspace : ∀ c ∈ space, Text.isBlank c = true)

include hspace

theorem spaced_spacedBy (pieces : List Piece) : Spaced pieces (spacedBy space pieces) := by
  induction pieces with
  | nil => exact .last (List.forall_mem_nil _)
  | cons piece pieces ih => exact .next hspace ih

theorem valid_spacedBy {pieces : List Piece} (h : ∀ piece ∈ pieces, piece.Valid) :
    (spacedBy space pieces).Valid := by
  have hmarkup : '<' ∉ space := fun hmem => absurd (hspace _ hmem) (by decide)
  induction pieces with
  | nil => exact List.not_mem_nil
  | cons piece pieces ih =>
    exact ⟨hmarkup, h piece List.mem_cons_self, ih fun p hp => h p (List.mem_cons_of_mem piece hp)⟩

/-- Every list of pieces makes a feed. -/
theorem isFeed_spacedBy {pieces : List Piece} (h : ∀ piece ∈ pieces, piece.Valid) :
    IsFeed pieces
      (String.ofList (Piece.element ⟨"feed".toList⟩ (spacedBy space pieces) []).write) :=
  .intro ⟨by decide, by decide, valid_spacedBy hspace h, List.forall_mem_nil _⟩ rfl
    (spaced_spacedBy hspace pieces)

end

/-! ## Runs -/

namespace State

/-- Follows events one after another. -/
def run (st : State) (events : List Event) : Except Fault State :=
  events.foldlM step st

theorem run_cons (st : State) (event : Event) (events : List Event) :
    st.run (event :: events) = (st.step event).bind fun st => st.run events :=
  rfl

theorem run_append (st : State) (events events' : List Event) :
    st.run (events ++ events') = (st.run events).bind fun st => st.run events' :=
  List.foldlM_append

variable {st st' : State}

theorem run_append_of_run {events events' : List Event} (h : st.run events = .ok st') :
    st.run (events ++ events') = st'.run events' := by
  rw [run_append, h]
  rfl

theorem exists_of_run_append {events events' : List Event}
    (h : st.run (events ++ events') = .ok st') :
    ∃ mid, st.run events = .ok mid ∧ mid.run events' = .ok st' := by
  rw [run_append] at h
  exact exists_of_bind_eq_ok h

/-- Text is pending with its references replaced. -/
theorem step_text {raw : List Char} (h : st.step (.text raw) = .ok st') :
    ∃ s, expand raw = .ok s ∧ st' = { st with text := st.text ++ s } := by
  unfold step at h
  cases hread : expand raw with
  | error fault =>
    simp only [hread] at h
    cases h
  | ok s =>
    simp only [hread] at h
    cases h
    exact ⟨s, rfl, rfl⟩

theorem run_textEvents {raw s : List Char} (h : expand raw = .ok s) (st : State) :
    st.run (textEvents raw) = .ok { st with text := st.text ++ s } := by
  unfold textEvents
  split
  · rename_i hempty
    rw [List.isEmpty_iff.mp hempty, expand, expandFrom] at h
    cases h
    rw [List.append_nil]
    rfl
  · rw [run_cons, step, h]
    rfl

theorem run_blank {text : List Char} (h : ∀ c ∈ text, Text.isBlank c = true) (st : State) :
    st.run (textEvents text) = .ok { st with text := st.text ++ text } :=
  run_textEvents (expand_of_not_mem fun hmem => absurd (h _ hmem) (by decide)) st

/-- An element opens, its content is followed, and it ends. -/
theorem run_element (tag : Tag) (content : Content) (gap : List Char) (st : State) :
    st.run (Piece.element tag content gap).events =
      ((st.begin tag).bind fun st => st.run content.events).bind fun st =>
        st.close tag.localName := by
  have hclose : ∀ st : State, st.run [.closing tag.name] = st.close tag.localName := by
    intro st
    show Except.bind (st.close tag.localName) _ = _
    cases st.close tag.localName <;> rfl
  rw [Piece.events, run_cons, step]
  cases st.begin tag with
  | error fault => rfl
  | ok st => simp only [Except.bind, run_append, hclose]

theorem begin_feed {tag : Tag} (h : tag.localName = "feed".toList) (st : State) :
    st.begin tag = .ok { st with text := [] } := by
  unfold begin readTag
  rw [h]
  rfl

theorem close_feed (st : State) : st.close "feed".toList = .ok { st with text := [] } := by
  obtain ⟨page, entry, author, text⟩ := st
  cases author with
  | some a => rfl
  | none => cases entry <;> rfl

/-- A property of states that text keeps, tags without content keep, and elements keep whose content
keeps it. -/
structure Kept (P : State → Prop) : Prop where
  text : ∀ st text, P st → P { st with text := text }
  empty : ∀ st st' tag, P st → st.readTag tag = .ok st' → P st'
  element : ∀ st opened closed st' tag content, P st → st.begin tag = .ok opened →
    opened.run (Content.events content) = .ok closed → (P opened → P closed) →
    closed.close tag.localName = .ok st' → P st'

namespace Kept

variable {P : State → Prop}

theorem textEvents (hP : Kept P) {text : List Char} (hst : P st)
    (h : st.run (textEvents text) = .ok st') : P st' := by
  unfold Xml.textEvents at h
  split at h
  · cases h
    exact hst
  · obtain ⟨opened, hstep, h⟩ := exists_of_bind_eq_ok h
    cases h
    obtain ⟨s, -, rfl⟩ := step_text hstep
    exact hP.text _ _ hst

mutual

theorem piece (hP : Kept P) : ∀ (piece : Piece) {st st' : State}, P st →
    st.run piece.events = .ok st' → P st'
  | .element tag content gap, st, st', hst, h => by
    rw [run_element] at h
    obtain ⟨closed, h, hclose⟩ := exists_of_bind_eq_ok h
    obtain ⟨opened, hopen, hcontent⟩ := exists_of_bind_eq_ok h
    exact hP.element st opened closed st' tag content hst hopen hcontent
      (fun hopened => hP.content content hopened hcontent) hclose
  | .empty tag, _, _, hst, h => by
    obtain ⟨opened, hread, h⟩ := exists_of_bind_eq_ok h
    cases h
    exact hP.empty _ _ tag hst hread
  | .characters _, _, _, hst, h => by
    cases h
    exact hP.text _ _ hst
  | .comment _, _, _, hst, h => by
    cases h
    exact hst
  | .instruction _, _, _, hst, h => by
    cases h
    exact hst

theorem content (hP : Kept P) : ∀ (content : Content) {st st' : State}, P st →
    st.run content.events = .ok st' → P st'
  | .last text, _, _, hst, h => hP.textEvents hst h
  | .next text piece content, _, _, hst, h => by
    obtain ⟨before, htext, h⟩ := exists_of_run_append h
    obtain ⟨after, hpiece, hcontent⟩ := exists_of_run_append h
    exact hP.content content (hP.piece piece (hP.textEvents hst htext) hpiece) hcontent

end

end Kept
end State

theorem decode_write {piece : Piece} (h : piece.Valid) :
    decode (String.ofList piece.write) =
      (State.start.run piece.events).bind fun st =>
        if st.entry.isSome then .error .unterminatedEntry else .ok st.page := by
  rw [decode, String.toList_ofList, read_write h]
  show Except.bind (Except.bind (State.start.run piece.events) _) _ = _
  cases State.start.run piece.events <;> rfl

/-- What a feed gives is what is read of its content, if no entry is open at its end. -/
theorem decode_feed {tag : Tag} {content : Content} {gap : List Char}
    (h : (Piece.element tag content gap).Valid) (hname : tag.localName = "feed".toList) :
    decode (String.ofList (Piece.element tag content gap).write) =
      (State.start.run content.events).bind fun st =>
        if st.entry.isSome then .error .unterminatedEntry else .ok st.page := by
  rw [decode_write h, State.run_element, State.begin_feed hname]
  show Except.bind (Except.bind (State.start.run content.events) _) _ = _
  cases State.start.run content.events with
  | error fault => rfl
  | ok st =>
    show Except.bind (st.close tag.localName) _ = _
    rw [hname, State.close_feed]
    rfl

end PaperSearch.Feed
