import Mathlib.Data.List.Forall2
import PaperSearch.Proofs.Feed.Runs
import PaperSearch.Proofs.Paper.Parts
import PaperSearch.Proofs.Time.Rfc3339

/-!
# Writing pages

A page can be written as a feed in many ways: its parts in any order that keeps those of one
element in order, under any prefixes, in elements with attributes of their own, and with any white
space between them. `WritesPage` is the relation between a page and the documents that write it;
`WritesText`, `WritesValues` and `WritesParts` are what it is made of.

Every page can be written: `exists_writesPage`.
-/

namespace PaperSearch.Feed

open Xml

/-! ## What writes what -/

/-- An element with a local name that holds nothing but the text. -/
inductive WritesText (name : String) (s : List Char) : Piece → Prop where
  | intro {tag : Tag} {gap : List Char} (name_eq : tag.localName = name.toList) :
    WritesText name s (.element tag (.last (escape s)) gap)

/-- The names of UTC in a timestamp. -/
def zones : List (List Char) :=
  ["Z".toList, "+00:00".toList]

def WritesDate (name : String) (t : Time.Instant) (piece : Piece) : Prop :=
  ∃ zone ∈ zones, WritesText name (Time.Rfc3339.stem t ++ zone) piece

/-- A tag with a local name whose attributes have the values, and none where there is no value. -/
inductive WritesValues (name : String) (values : List (String × Option String)) : Piece → Prop where
  | intro {written : List Char} {attributes : Values} (isName : IsName written)
    (name_eq : localName written = name.toList) (named : attributes.Named)
    (get?_eq : ∀ v ∈ values, attributes.get? v.1.toList = v.2.map String.toList) :
    WritesValues name values (.empty (Tag.withValues written attributes))

def WritesCategory (name : String) (c : Category) : Piece → Prop :=
  WritesValues name [("term", some c.term)]

def WritesLink (l : Link) : Piece → Prop :=
  WritesValues "link" [("href", some l.href), ("rel", l.rel), ("type", l.mediaType),
    ("title", l.title)]

/-- An element with a local name that holds what writes the parts, and white space. -/
inductive WritesParts {α : Type} (name : String) (element : α → String)
    (writes : α → Piece → Prop) (parts : List α) : Piece → Prop where
  | intro {tag : Tag} {content : Content} {gap : List Char} {written : List α}
    {pieces : List Piece} (name_eq : tag.localName = name.toList)
    (arranged : Arranged element written parts) (forall_writes : List.Forall₂ writes written pieces)
    (spaced : Spaced pieces content) :
    WritesParts name element writes parts (.element tag content gap)

def WritesAuthorPart : AuthorPart → Piece → Prop
  | .name s => WritesText "name" s.toList
  | .affiliation s => WritesText "affiliation" s.toList

def WritesAuthor (a : Author) : Piece → Prop :=
  WritesParts "author" AuthorPart.element WritesAuthorPart a.parts

def WritesEntryPart : EntryPart → Piece → Prop
  | .id s => WritesText "id" s.toList
  | .title s => WritesText "title" s.toList
  | .summary s => WritesText "summary" s.toList
  | .published t => WritesDate "published" t
  | .updated t => WritesDate "updated" t
  | .author a => WritesAuthor a
  | .category c => WritesCategory "category" c
  | .primaryCategory c => WritesCategory "primary_category" c
  | .link l => WritesLink l
  | .comment s => WritesText "comment" s.toList
  | .journalRef s => WritesText "journal_ref" s.toList
  | .doi s => WritesText "doi" s.toList

def WritesEntry (e : Entry) : Piece → Prop :=
  WritesParts "entry" EntryPart.element WritesEntryPart e.parts

def WritesPagePart : PagePart → Piece → Prop
  | .title s => WritesText "title" s.toList
  | .id s => WritesText "id" s.toList
  | .updated s => WritesText "updated" s.toList
  | .total n => WritesText "totalResults" (Text.decimal n.toNat)
  | .start n => WritesText "startIndex" (Text.decimal n.toNat)
  | .perPage n => WritesText "itemsPerPage" (Text.decimal n.toNat)
  | .link l => WritesLink l
  | .entry e => WritesEntry e

/-- The document is a feed of pieces that write the parts of the page. -/
def WritesPage (page : Page) (document : String) : Prop :=
  ∃ written pieces, Arranged PagePart.element written page.parts ∧
    List.Forall₂ WritesPagePart written pieces ∧ IsFeed pieces document

/-! ## Everything can be written -/

/-- A name of an element or an attribute without a prefix. -/
def IsPlain (name : String) : Prop :=
  IsName name.toList ∧ localName name.toList = name.toList

instance (name : String) : Decidable (IsPlain name) :=
  inferInstanceAs (Decidable (IsName name.toList ∧ localName name.toList = name.toList))

theorem exists_forall₂_writes {α : Type} {writes : α → Piece → Prop} {parts : List α}
    (h : ∀ part ∈ parts, ∃ piece : Piece, piece.Valid ∧ writes part piece) :
    ∃ pieces : List Piece, (∀ piece ∈ pieces, piece.Valid) ∧ List.Forall₂ writes parts pieces := by
  induction parts with
  | nil => exact ⟨[], List.forall_mem_nil _, .nil⟩
  | cons part parts ih =>
    obtain ⟨piece, hvalid, hwrites⟩ := h part List.mem_cons_self
    obtain ⟨pieces, hvalids, hall⟩ :=
      ih fun other hother => h other (List.mem_cons_of_mem part hother)
    exact ⟨piece :: pieces, List.forall_mem_cons.mpr ⟨hvalid, hvalids⟩, .cons hwrites hall⟩

section Exists

variable {name : String} (hname : IsPlain name)

include hname

theorem localName_plain (values : Values) :
    (Tag.withValues name.toList values).localName = name.toList := by
  rw [localName_withValues hname.1, hname.2]

/-- An element with a plain name is valid around valid content. -/
theorem valid_element {content : Content} (h : content.Valid) :
    (Piece.element (Tag.withValues name.toList []) content []).Valid := by
  refine ⟨valid_withValues hname.1 (List.forall_mem_nil _), ?_, h, List.forall_mem_nil _⟩
  intro hlast
  rw [Tag.withValues, List.flatMap_nil, List.append_nil] at hlast
  exact absurd (hname.1.2 '/' (List.mem_of_getLast? hlast)) (by decide)

theorem exists_writesText (s : List Char) :
    ∃ piece : Piece, piece.Valid ∧ WritesText name s piece := by
  have hcontent : (Content.last (escape s)).Valid := fun hmem => (ne_of_mem_escape hmem).2 rfl
  exact ⟨_, valid_element hname hcontent, .intro (localName_plain hname [])⟩

theorem exists_writesDate (t : Time.Instant) :
    ∃ piece : Piece, piece.Valid ∧ WritesDate name t piece := by
  obtain ⟨piece, hvalid, hwrites⟩ := exists_writesText hname (Time.Rfc3339.stem t ++ "Z".toList)
  exact ⟨piece, hvalid, _, List.mem_cons_self, hwrites⟩

theorem exists_writesParts {α : Type} (element : α → String) {writes : α → Piece → Prop}
    {parts : List α} (h : ∀ part ∈ parts, ∃ piece : Piece, piece.Valid ∧ writes part piece) :
    ∃ piece : Piece, piece.Valid ∧ WritesParts name element writes parts piece := by
  obtain ⟨pieces, hvalid, hwrites⟩ := exists_forall₂_writes h
  have hspace : ∀ c ∈ ([] : List Char), Text.isBlank c = true := List.forall_mem_nil _
  exact ⟨_, valid_element hname (valid_spacedBy hspace hvalid),
    .intro (localName_plain hname []) (fun _ => rfl) hwrites (spaced_spacedBy hspace pieces)⟩

end Exists

/-- The values that there are, under their names. -/
def present (values : List (String × Option String)) : Values :=
  values.filterMap fun v => v.2.map fun s => (v.1.toList, s.toList)

section Present

variable {values : List (String × Option String)}

theorem exists_of_mem_present {a : List Char × List Char} (h : a ∈ present values) :
    ∃ name ∈ values.map Prod.fst, a.1 = name.toList := by
  obtain ⟨v, hv, ha⟩ := List.mem_filterMap.mp h
  obtain ⟨s, -, rfl⟩ := Option.map_eq_some_iff.mp ha
  exact ⟨v.1, List.mem_map_of_mem hv, rfl⟩

/-- A name of none of the values is not there. -/
theorem ne_of_mem_present {name : String} (hname : name ∉ values.map Prod.fst)
    {a : List Char × List Char} (h : a ∈ present values) : a.1 ≠ name.toList := by
  obtain ⟨other, hother, heq⟩ := exists_of_mem_present h
  intro hsame
  rw [heq, String.toList_inj] at hsame
  exact hname (hsame ▸ hother)

theorem named_present (hplain : ∀ name ∈ values.map Prod.fst, IsPlain name)
    (hnodup : (values.map Prod.fst).Nodup) : (present values).Named where
  names a ha := by
    obtain ⟨name, hname, heq⟩ := exists_of_mem_present ha
    rw [heq]
    exact (hplain name hname).1
  nodup := by
    induction values with
    | nil => exact List.nodup_nil
    | cons v values ih =>
      obtain ⟨name, value⟩ := v
      obtain ⟨hname, hnodup⟩ := List.nodup_cons.mp hnodup
      have hrest := ih (fun other hother => hplain other (List.mem_cons_of_mem name hother)) hnodup
      cases value with
      | none => exact hrest
      | some s =>
        refine List.nodup_cons.mpr ⟨fun hmem => ?_, hrest⟩
        obtain ⟨a, ha, heq⟩ := List.mem_map.mp hmem
        exact ne_of_mem_present hname ha heq

theorem get?_present (hplain : ∀ name ∈ values.map Prod.fst, IsPlain name)
    (hnodup : (values.map Prod.fst).Nodup) :
    ∀ v ∈ values, (present values).get? v.1.toList = v.2.map String.toList := by
  induction values with
  | nil => exact List.forall_mem_nil _
  | cons v values ih =>
    obtain ⟨name, value⟩ := v
    rw [List.map_cons, List.forall_mem_cons] at hplain
    rw [List.map_cons, List.nodup_cons] at hnodup
    obtain ⟨⟨hfirst, hlocal⟩, hplain⟩ := hplain
    obtain ⟨hname, hnodup⟩ := hnodup
    have hrest := ih hplain hnodup
    have habsent : (present values).get? name.toList = none := by
      have hnone : (present values).find? (fun a => localName a.1 == name.toList) = none := by
        refine List.find?_eq_none.mpr fun a ha heq => ?_
        obtain ⟨other, hother, hsame⟩ := exists_of_mem_present ha
        rw [hsame, (hplain other hother).2, beq_iff_eq] at heq
        exact ne_of_mem_present hname ha (hsame.trans heq)
      rw [Values.get?, hnone]
      rfl
    have hget : ∀ wanted, (present ((name, value) :: values)).get? wanted =
        if name.toList = wanted then value.map String.toList else (present values).get? wanted := by
      intro wanted
      cases value with
      | none =>
        split
        · rename_i heq
          exact heq ▸ habsent
        · rfl
      | some s =>
        have hcons := Values.get?_cons (name.toList, s.toList) (present values) wanted
        rwa [hlocal] at hcons
    refine List.forall_mem_cons.mpr ⟨by rw [hget, if_pos rfl], fun w hw => ?_⟩
    have hmem : w.1 ∈ values.map Prod.fst := List.mem_map_of_mem hw
    have hne : name.toList ≠ w.1.toList := fun heq => hname (String.toList_inj.mp heq ▸ hmem)
    rw [hget, if_neg hne]
    exact hrest w hw

end Present

theorem exists_writesValues {name : String} (hname : IsPlain name)
    {values : List (String × Option String)} (hplain : ∀ name ∈ values.map Prod.fst, IsPlain name)
    (hnodup : (values.map Prod.fst).Nodup) :
    ∃ piece : Piece, piece.Valid ∧ WritesValues name values piece := by
  have hnamed := named_present hplain hnodup
  refine ⟨.empty (Tag.withValues name.toList (present values)), ?_, ?_⟩
  · exact valid_withValues hname.1 hnamed.names
  · exact .intro hname.1 hname.2 hnamed (get?_present hplain hnodup)

theorem exists_writesCategory {name : String} (hname : IsPlain name) (c : Category) :
    ∃ piece : Piece, piece.Valid ∧ WritesCategory name c piece := by
  have hplain : ∀ name ∈ ["term"], IsPlain name := by decide
  have hnodup : ["term"].Nodup := by decide
  exact exists_writesValues hname hplain hnodup

theorem exists_writesLink (l : Link) : ∃ piece : Piece, piece.Valid ∧ WritesLink l piece := by
  have hplain : ∀ name ∈ ["href", "rel", "type", "title"], IsPlain name := by decide
  have hnodup : ["href", "rel", "type", "title"].Nodup := by decide
  exact exists_writesValues (by decide) hplain hnodup

theorem exists_writesAuthor (a : Author) : ∃ piece : Piece, piece.Valid ∧ WritesAuthor a piece := by
  refine exists_writesParts (by decide) AuthorPart.element fun part _ => ?_
  cases part with
  | name s | affiliation s => exact exists_writesText (by decide) s.toList

theorem exists_writesEntry (e : Entry) : ∃ piece : Piece, piece.Valid ∧ WritesEntry e piece := by
  refine exists_writesParts (by decide) EntryPart.element fun part _ => ?_
  cases part with
  | id s | title s | summary s | comment s | journalRef s | doi s =>
    exact exists_writesText (by decide) s.toList
  | published t | updated t => exact exists_writesDate (by decide) t
  | author a => exact exists_writesAuthor a
  | category c | primaryCategory c => exact exists_writesCategory (by decide) c
  | link l => exact exists_writesLink l

/-- **Every page can be written.** -/
theorem exists_writesPage (page : Page) : ∃ document, WritesPage page document := by
  have hparts : ∀ part ∈ page.parts, ∃ piece : Piece, piece.Valid ∧ WritesPagePart part piece := by
    intro part _
    cases part with
    | title s | id s | updated s => exact exists_writesText (by decide) s.toList
    | total n | start n | perPage n => exact exists_writesText (by decide) (Text.decimal n.toNat)
    | link l => exact exists_writesLink l
    | entry e => exact exists_writesEntry e
  obtain ⟨pieces, hvalid, hwrites⟩ := exists_forall₂_writes hparts
  have hspace : ∀ c ∈ ([] : List Char), Text.isBlank c = true := List.forall_mem_nil _
  exact ⟨_, page.parts, pieces, fun _ => rfl, hwrites, isFeed_spacedBy hspace hvalid⟩

end PaperSearch.Feed
