import PaperSearch.Proofs.Feed.Places

/-!
# Text written in other ways

How the text of an element is written does not matter: `decode_respelled`. What spells a text makes
it pending and does no more (`run_of_spells`), so whatever else spells the same text leads on to the
same page.
-/

namespace PaperSearch.Feed

open Xml

variable {content : Content} {s : List Char}

/-- Content that spells a text makes the text pending. -/
theorem run_of_spells (h : content.Spells s) (st : State) :
    st.run content.events = .ok { st with text := st.text ++ s } := by
  induction h generalizing st with
  | last h => exact (State.run_textEvents_iff h.not_mem).mpr ⟨_, h, rfl⟩
  | @characters raw s data t content h _ _ ih =>
    have htext : st.run (textEvents raw) = .ok { st with text := st.text ++ s } :=
      (State.run_textEvents_iff h.not_mem).mpr ⟨s, h, rfl⟩
    rw [Content.events, State.run_append_of_run htext]
    show State.run { st with text := st.text ++ s ++ data } content.events = _
    rw [ih]
    simp only [List.append_assoc]
  | @aside raw s t piece content h isAside _ _ ih =>
    have htext : st.run (textEvents raw) = .ok { st with text := st.text ++ s } :=
      (State.run_textEvents_iff h.not_mem).mpr ⟨s, h, rfl⟩
    have hpiece : ∀ st : State, st.run piece.events = .ok st := by
      cases piece <;> first | exact isAside.elim | exact fun _ => rfl
    rw [Content.events, State.run_append_of_run htext, State.run_append_of_run (hpiece _), ih,
      List.append_assoc]

/-- Content spells no two texts. -/
theorem spells_unique {t : List Char} (hs : content.Spells s) (ht : content.Spells t) : s = t := by
  have hsame := (run_of_spells hs State.start).symm.trans (run_of_spells ht State.start)
  exact congrArg State.text (Except.ok.inj hsame)

/-- Content without elements that can be followed spells a text. -/
theorem exists_spells : ∀ {content : Content}, content.Valid → content.IsData →
    ∀ {st st' : State}, st.run content.events = .ok st' → ∃ s, content.Spells s
  | .last raw, hvalid, _, st, st', h => by
    obtain ⟨s, hs, -⟩ := (State.run_textEvents_iff hvalid).mp h
    exact ⟨s, .last hs⟩
  | .next raw piece content, ⟨hraw, hpiece, hcontent⟩, hdata, st, st', h => by
    obtain ⟨before, htext, h⟩ := State.exists_of_run_append h
    obtain ⟨after, -, h⟩ := State.exists_of_run_append h
    obtain ⟨s, hs, -⟩ := (State.run_textEvents_iff hraw).mp htext
    cases piece with
    | element => exact hdata.elim
    | empty => exact hdata.elim
    | characters data =>
      obtain ⟨t, ht⟩ := exists_spells hcontent hdata h
      exact ⟨_, .characters hs hpiece ht⟩
    | comment | instruction =>
      obtain ⟨t, ht⟩ := exists_spells hcontent hdata h
      exact ⟨_, .aside hs trivial hpiece ht⟩

section

variable {before start stop after : List Char} {tag : Tag}

/-- An element that stands at a place begins, is followed and ends before what stands behind it. -/
theorem decode_element_append {opened : List (List Char)} (h : openAfter? before = some opened)
    (hstart : IsMarkup start (.opening tag)) (hstop : IsMarkup stop (.closing tag.name))
    (hcontent : content.Valid) {page : Page} :
    decode (String.ofList (before ++ (start ++ (content.write ++ (stop ++ after))))) = .ok page ↔
      ∃ st, State.start.run (read before).events = .ok st ∧
        ∃ first, st.begin tag = .ok first ∧ ∃ last, first.run content.events = .ok last ∧
          ∃ st', last.close tag.localName = .ok st' ∧ st'.Gives (readFrom opened after) page := by
  have hopened : nest opened (.opening tag) = .ok (tag.name :: opened) := rfl
  have hclosed : nest (tag.name :: opened) (.closing tag.name) = .ok opened := if_pos rfl
  have hone : ∀ (st st' : State) (event : Event),
      st.run [event] = .ok st' ↔ st.step event = .ok st' := by
    intro st st' event
    rw [State.run_cons]
    cases st.step event <;> rfl
  rw [decode_append h (hstart.head?_append _)]
  simp only [hstart.readFrom hopened, State.gives_after, hone,
    readFrom_content content _ _ hcontent (hstop.head?_append after), hstop.readFrom hclosed]
  rfl

/-- **How text is written does not matter.** Where a document that is read has an element without
elements in it, the content of the element spells a text, and the document gives the same page with
whatever else spells that text in its place. -/
theorem decode_respelled (hbefore : (openAfter? before).isSome)
    (hstart : IsMarkup start (.opening tag)) (hstop : IsMarkup stop (.closing tag.name))
    (hvalid : content.Valid) (hdata : content.IsData) {page : Page}
    (h : decode (String.ofList (before ++ (start ++ (content.write ++ (stop ++ after))))) =
      .ok page) :
    ∃ s, content.Spells s ∧ ∀ content' : Content, content'.Spells s →
      decode (String.ofList (before ++ (start ++ (content'.write ++ (stop ++ after))))) =
        .ok page := by
  obtain ⟨opened, hopened⟩ := Option.isSome_iff_exists.mp hbefore
  obtain ⟨st, hst, first, hfirst, last, hlast, hgives⟩ :=
    (decode_element_append hopened hstart hstop hvalid).mp h
  obtain ⟨s, hs⟩ := exists_spells hvalid hdata hlast
  refine ⟨s, hs, fun content' hs' => ?_⟩
  have hsame : first.run content'.events = first.run content.events :=
    (run_of_spells hs' first).trans (run_of_spells hs first).symm
  exact (decode_element_append hopened hstart hstop hs'.content_valid).mpr
    ⟨st, hst, first, hfirst, last, hsame.trans hlast, hgives⟩

def titleTag : Tag :=
  ⟨"a:title type='html'".toList⟩

/-- A feed of one entry with nothing but a title. -/
def titled (content : Content) : List Char :=
  "<feed><entry>".toList ++ ('<' :: (titleTag.content ++ ['>']) ++ (content.write ++
    ('<' :: '/' :: (titleTag.name ++ [' '] ++ ['>']) ++ "</entry></feed>".toList)))

/-- The text ` a  <b> & c` with its white space in two parts, and with what would be markup. -/
def dividedTitle : Content :=
  .next " &#97; ".toList (.comment " <c> ".toList) (.next [] (.instruction "p".toList)
    (.next " &lt;".toList (.characters "b> & ".toList) (.last "&#x063;".toList)))

theorem decode_respelled_title : decode (String.ofList (titled dividedTitle)) =
    .ok { Page.default with entries := [{ Entry.default with title := "a <b> & c" }] } := by
  have htag : titleTag.Valid := by decide +kernel
  have hvalid : (Content.last " a  &lt;b&gt; &amp; c".toList).Valid :=
    (by decide : '<' ∉ " a  &lt;b&gt; &amp; c".toList)
  have hdecode : decode (String.ofList (titled (.last " a  &lt;b&gt; &amp; c".toList))) =
      .ok { Page.default with entries := [{ Entry.default with title := "a <b> & c" }] } :=
    eq_ok_of_toOption (by decide +kernel)
  obtain ⟨s, hs, hsame⟩ := decode_respelled (by decide +kernel)
    (isMarkup_opening htag (by decide)) (isMarkup_closing htag (by decide)) hvalid trivial hdecode
  have hspells : ∀ raw t : String, (expand raw.toList).toOption = some t.toList →
      '<' ∉ raw.toList → Xml.Spells raw.toList t.toList :=
    fun _ _ hread hraw => (expand_eq_ok_iff hraw).mp (eq_ok_of_toOption hread)
  have hplain : Content.Spells (.last " a  &lt;b&gt; &amp; c".toList) " a  <b> & c".toList :=
    .last (hspells _ _ (by decide +kernel) (by decide))
  have hdivided : dividedTitle.Spells " a  <b> & c".toList :=
    .aside (hspells " &#97; " " a " (by decide +kernel) (by decide)) trivial (by decide)
      (.aside .nil trivial (by decide)
        (.characters (hspells " &lt;" " <" (by decide +kernel) (by decide)) (by decide)
          (.last (hspells "&#x063;" "c" (by decide +kernel) (by decide)))))
  obtain rfl := spells_unique hs hplain
  exact hsame dividedTitle hdivided

end

end PaperSearch.Feed
