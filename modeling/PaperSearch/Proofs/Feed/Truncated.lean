import PaperSearch.Proofs.Feed.Apart
import PaperSearch.Proofs.Feed.Places

/-!
# Documents that are cut off

A document that is cut off is refused exactly when the cut leaves a piece of markup, a reference or
an entry without its end; where it is not refused it gives the entries before the cut
(`decode_cut`). A feed that is cut off between two of its entries is taken for a shorter one.
-/

namespace PaperSearch.Feed

open Xml

/-- An entry is open behind the text. -/
def EndsInEntry (s : List Char) : Prop :=
  ∃ st, State.start.run (read s).events = .ok st ∧ st.entry.isSome

theorem endsInEntry_iff {s : List Char} :
    EndsInEntry s ↔ ((State.start.run (read s).events).toOption.bind State.entry).isSome := by
  rw [EndsInEntry]
  cases State.start.run (read s).events <;> simp [Except.toOption]

instance : DecidablePred EndsInEntry := fun _ => decidable_of_iff' _ endsInEntry_iff

section

variable {cut rest : List Char} {page : Page}

/-- What a run adds to a page are entries behind those that it has. -/
theorem entries_prefix_of_run {st st' : State} {events : List Event}
    (h : st.run events = .ok st') : st.page.entries <+: st'.page.entries := by
  obtain ⟨change, added, hadded, hchange⟩ := State.run_frames h
  have hpage : st'.page = change st.page :=
    congrArg State.page (Except.ok.inj (h.symm.trans (hchange st.page)))
  rw [hpage, hadded]
  exact List.prefix_append _ _

/-- A document that is read can be followed up to a cut that leaves no markup and no reference
without its end. -/
theorem exists_run_of_decode (h : decode (String.ofList (cut ++ rest)) = .ok page)
    (hmarkup : ¬ EndsInMarkup cut) (hreference : ¬ EndsInReference cut) :
    ∃ st, State.start.run (read cut).events = .ok st ∧ st.page.entries <+: page.entries := by
  cases cut with
  | nil =>
    rw [read_nil]
    exact ⟨State.start, rfl, List.nil_prefix⟩
  | cons c cut =>
    obtain ⟨hfailure, -⟩ := decode_eq_ok_iff.mp h
    rw [endsInMarkup_iff hfailure] at hmarkup
    obtain ⟨opened, hopened⟩ := Option.ne_none_iff_exists'.mp hmarkup
    obtain ⟨st, hrun, -, last, hlast, -, rfl⟩ :=
      (decode_append_text hopened (List.cons_ne_nil c cut) fun hends =>
        absurd hends hreference).mp h
    exact ⟨st, hrun, entries_prefix_of_run hlast⟩

/-- **When a document that is cut off is refused.** It is refused exactly when the cut leaves a
piece of markup, a reference or an entry without its end. Where it is not, the entries that it gives
are the first ones of the whole document. -/
theorem decode_cut (h : decode (String.ofList (cut ++ rest)) = .ok page) :
    ((∃ fault, decode (String.ofList cut) = .error fault) ↔
      EndsInMarkup cut ∨ EndsInReference cut ∨ EndsInEntry cut) ∧
      ∀ short, decode (String.ofList cut) = .ok short → short.entries <+: page.entries := by
  have hfailure := (decode_eq_ok_iff.mp h).1
  have hread : ∀ short, decode (String.ofList cut) = .ok short →
      ¬ EndsInMarkup cut ∧ ¬ EndsInReference cut ∧ ¬ EndsInEntry cut := by
    intro short hshort
    obtain ⟨hnone, st, hrun, hentry, -⟩ := decode_eq_ok_iff.mp hshort
    refine ⟨?_, fun hreference => hreference.run_ne_ok st hrun, ?_⟩
    · rw [endsInMarkup_iff hfailure, openAfter?_eq_none_iff, hnone]
      exact fun hne => hne rfl
    · rintro ⟨st', hrun', hopen⟩
      cases hrun.symm.trans hrun'
      rw [hentry] at hopen
      cases hopen
  refine ⟨⟨?_, ?_⟩, fun short hshort => ?_⟩
  · rintro ⟨fault, hfault⟩
    by_contra hends
    rw [not_or, not_or] at hends
    obtain ⟨hmarkup, hreference, hentry⟩ := hends
    obtain ⟨st, hrun, -⟩ := exists_run_of_decode h hmarkup hreference
    rw [endsInMarkup_iff hfailure, openAfter?_eq_none_iff, not_not] at hmarkup
    have hclosed : st.entry = none :=
      Option.not_isSome_iff_eq_none.mp fun hopen => hentry ⟨st, hrun, hopen⟩
    cases hfault.symm.trans (decode_eq_ok_iff.mpr ⟨hmarkup, st, hrun, hclosed, rfl⟩)
  · intro hends
    cases hcut : decode (String.ofList cut) with
    | error fault => exact ⟨fault, rfl⟩
    | ok short =>
      obtain ⟨hmarkup, hreference, hentry⟩ := hread short hcut
      rcases hends with hends | hends | hends
      · exact absurd hends hmarkup
      · exact absurd hends hreference
      · exact absurd hends hentry
  · obtain ⟨hmarkup, hreference, -⟩ := hread short hshort
    obtain ⟨st, hrun, hentries⟩ := exists_run_of_decode h hmarkup hreference
    obtain ⟨-, st', hrun', -, rfl⟩ := decode_eq_ok_iff.mp hshort
    cases hrun.symm.trans hrun'
    exact hentries

def identifier (id : String) : Piece :=
  .element ⟨"id".toList⟩ (.last id.toList) []

/-- An entry with nothing but an identifier. -/
def identified (id : String) : Piece :=
  .element ⟨"entry".toList⟩ (.next [] (identifier id) (.last [])) []

/-- A feed of two entries. -/
def pairFeed : Piece :=
  .element ⟨"feed".toList⟩ (spacedBy ['\n'] [identified "a", identified "b"]) []

/-- The feed up to the end of its first entry. -/
def firstOfPair : List Char :=
  "<feed>\n".toList ++ (identified "a").write

theorem write_pairFeed : pairFeed.write =
    firstOfPair ++ ("\n".toList ++ ((identified "b").write ++ "</feed>".toList)) := by
  decide +kernel

theorem decode_pairFeed : decode (String.ofList pairFeed.write) = .ok { Page.default with
    entries := [{ Entry.default with id := "a" }, { Entry.default with id := "b" }] } :=
  eq_ok_of_toOption (by decide +kernel)

/-- A cut in the second entry is noticed. A cut before it is not, and loses the entry. -/
theorem decode_cut_pairFeed :
    (∃ fault, decode (String.ofList (firstOfPair ++ "\n<entry>".toList)) = .error fault) ∧
      ∀ short, decode (String.ofList firstOfPair) = .ok short →
        short.entries <+: [{ Entry.default with id := "a" }, { Entry.default with id := "b" }] := by
  have hwhole := decode_pairFeed
  constructor
  · have hinside : pairFeed.write = firstOfPair ++ "\n<entry>".toList ++
        ((identifier "b").write ++ "</entry></feed>".toList) := by decide +kernel
    have hentry : EndsInEntry (firstOfPair ++ "\n<entry>".toList) := by decide +kernel
    rw [hinside] at hwhole
    exact (decode_cut hwhole).1.mpr (.inr (.inr hentry))
  · rw [write_pairFeed] at hwhole
    exact (decode_cut hwhole).2

/-- **A feed that is cut off between two entries is taken for a page.** -/
theorem not_decode_cut_error :
    ¬ ∀ (root : Piece) (cut rest : List Char) (page : Page), root.Valid →
      root.write = cut ++ rest → rest ≠ [] → decode (String.ofList root.write) = .ok page →
        ∃ fault, decode (String.ofList cut) = .error fault := by
  intro h
  have hcut : decode (String.ofList firstOfPair) =
      .ok { Page.default with entries := [{ Entry.default with id := "a" }] } :=
    eq_ok_of_toOption (by decide +kernel)
  obtain ⟨fault, hfault⟩ :=
    h pairFeed firstOfPair _ _ (by decide +kernel) write_pairFeed (by decide) decode_pairFeed
  cases hcut.symm.trans hfault

end

end PaperSearch.Feed
