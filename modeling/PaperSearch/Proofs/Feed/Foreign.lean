import PaperSearch.Proofs.Feed.Places

/-!
# Foreign markup

Elements with names that mean nothing in a feed change nothing but the text that is pending
(`run_foreign`). In a feed, an entry or an author that text is not read, so they can stand between
any of the children there: `decode_foreign`.
-/

namespace PaperSearch.Feed

open Xml

/-- The elements that mean something in a feed. -/
def knownNames : List (List Char) :=
  structural ++ textNames

mutual

/-- No element of the piece is known, and its text can be read. -/
def IsForeign : Piece → Prop
  | .element tag content _ => tag.localName ∉ knownNames ∧ HoldsForeign content
  | .empty tag => tag.localName ∉ knownNames
  | .characters _ | .comment _ | .instruction _ => True

/-- No element of the content is known, and its text can be read. -/
def HoldsForeign : Content → Prop
  | .last text => ∃ s, Spells text s
  | .next text piece rest => (∃ s, Spells text s) ∧ IsForeign piece ∧ HoldsForeign rest

end

theorem not_mem_of_not_mem_knownNames {name : List Char} (h : name ∉ knownNames) :
    name ∉ structural ∧ name ∉ textNames := by
  rwa [knownNames, List.mem_append, not_or] at h

/-- Text that can be read only adds to the text that is pending. -/
theorem exists_run_textEvents {raw : List Char} (h : ∃ s, Spells raw s) (st : State) :
    ∃ text, st.run (textEvents raw) = .ok { st with text } := by
  obtain ⟨s, hs⟩ := h
  exact ⟨_, (State.run_textEvents_iff hs.not_mem).mpr ⟨s, hs, rfl⟩⟩

mutual

/-- A foreign piece changes nothing but the text that is pending. -/
theorem run_foreign : ∀ {piece : Piece}, IsForeign piece → ∀ st : State,
    ∃ text, st.run piece.events = .ok { st with text }
  | .element tag content gap, ⟨hname, hcontent⟩, st => by
    obtain ⟨hstructural, htext⟩ := not_mem_of_not_mem_knownNames hname
    obtain ⟨text, hrun⟩ := run_holdsForeign hcontent { st with text := [] }
    refine ⟨[], ?_⟩
    rw [State.run_element, begin_text hstructural]
    simp only [Except.bind]
    rw [hrun]
    exact State.close_quiet htext (fun heq => hstructural (heq ▸ by decide))
      (fun heq => hstructural (heq ▸ by decide)) _
  | .empty tag, hname, st => by
    have hplain : tag.localName ∉ State.attributeNames := fun hmem =>
      (not_mem_of_not_mem_knownNames hname).1 (List.mem_cons_of_mem _ (List.mem_cons_of_mem _ hmem))
    refine ⟨st.text, ?_⟩
    show Except.bind (st.readTag tag) _ = _
    rw [State.readTag_plain hplain]
    rfl
  | .characters s, _, st => ⟨st.text ++ s, rfl⟩
  | .comment _, _, st => ⟨st.text, rfl⟩
  | .instruction _, _, st => ⟨st.text, rfl⟩

/-- Foreign content changes nothing but the text that is pending. -/
theorem run_holdsForeign : ∀ {content : Content}, HoldsForeign content → ∀ st : State,
    ∃ text, st.run content.events = .ok { st with text }
  | .last raw, htext, st => exists_run_textEvents htext st
  | .next raw piece content, ⟨htext, hpiece, hcontent⟩, st => by
    obtain ⟨before, hbefore⟩ := exists_run_textEvents htext st
    obtain ⟨after, hafter⟩ := run_foreign hpiece { st with text := before }
    obtain ⟨text, hlast⟩ := run_holdsForeign hcontent { st with text := after }
    refine ⟨text, ?_⟩
    rw [Content.events, State.run_append_of_run hbefore, State.run_append_of_run hafter]
    exact hlast

end

/-- **Foreign markup is passed over.** A document gives the same page with and without a foreign
piece in a feed, an entry or an author, at any place where it does not divide a reference. -/
theorem decode_foreign {before after name : List Char} {others : List (List Char)} {piece : Piece}
    (hplace : openAfter? before = some (name :: others))
    (hname : localName name ∈ ["feed".toList, "entry".toList, "author".toList])
    (hreference : EndsInReference before → ∀ c ∈ after.head?, c = '<') (hvalid : piece.Valid)
    (hforeign : IsForeign piece) (page : Page) :
    decode (String.ofList (before ++ (piece.write ++ after))) = .ok page ↔
      decode (String.ofList (before ++ after)) = .ok page := by
  have hne : before ≠ [] := ne_nil_of_openAfter? hplace
  have hunread : ∀ innermost ∈ (name :: others).head?, localName innermost ∉ textNames := by
    rintro innermost ⟨⟩
    have hnames : ∀ n ∈ ["feed".toList, "entry".toList, "author".toList], n ∉ textNames := by
      decide
    exact hnames _ hname
  rw [decode_piece hplace hvalid, decode_append_text hplace hne hreference]
  refine exists_congr fun st => and_congr_right fun _ => ?_
  obtain ⟨text, hrun⟩ := run_foreign hforeign st
  have halike : State.Alike (name :: others) st { st with text } := .unread hunread
  rw [exists_ok_and_iff hrun, halike.gives]

/-- A note with elements, references and what looks like an entry. -/
def note : Piece :=
  .element ⟨"m:note xml:lang='en' title=\"a > b\"".toList⟩
    (.next "see &lt;".toList (.element ⟨"b".toList⟩ (.last "this".toList) [])
      (.next "&gt;".toList (.characters "<entry><id>".toList)
        (.next [] (.empty ⟨"hr".toList⟩) (.last "&#33;".toList)))) [' ']

theorem decode_foreign_note :
    decode (String.ofList ("<feed><entry><author><name>N</name>\n".toList ++
      (note.write ++ "\n</author><title>T</title></entry></feed>".toList))) =
        .ok { Page.default with
          entries := [{ Entry.default with title := "T", authors := [⟨"N", none⟩] }] } := by
  have hspells : ∀ raw : String, '<' ∉ raw.toList → (expand raw.toList).toOption.isSome →
      ∃ s, Spells raw.toList s := by
    intro raw hraw hread
    obtain ⟨s, hs⟩ := Option.isSome_iff_exists.mp hread
    exact ⟨s, (expand_eq_ok_iff hraw).mp (eq_ok_of_toOption hs)⟩
  have hempty : IsForeign (.empty ⟨"hr".toList⟩) :=
    (by decide +kernel : Tag.localName ⟨"hr".toList⟩ ∉ knownNames)
  have hforeign : IsForeign note :=
    ⟨by decide +kernel, hspells "see &lt;" (by decide) (by decide +kernel),
      ⟨by decide +kernel, hspells "this" (by decide) (by decide +kernel)⟩,
      hspells "&gt;" (by decide) (by decide +kernel), trivial, ⟨[], .nil⟩, hempty,
      hspells "&#33;" (by decide) (by decide +kernel)⟩
  have hplace : openAfter? "<feed><entry><author><name>N</name>\n".toList =
      some ["author".toList, "entry".toList, "feed".toList] := by decide +kernel
  have hwhole : ¬ EndsInReference "<feed><entry><author><name>N</name>\n".toList := by
    rintro ⟨front, rest, heq, -⟩
    have hmem : '&' ∈ front ++ '&' :: rest := List.mem_append_right front List.mem_cons_self
    rw [← heq] at hmem
    exact absurd hmem (by decide)
  exact (decode_foreign hplace (by decide) (fun hends => absurd hends hwhole) (by decide +kernel)
    hforeign _).mpr (eq_ok_of_toOption (by decide +kernel))

end PaperSearch.Feed
