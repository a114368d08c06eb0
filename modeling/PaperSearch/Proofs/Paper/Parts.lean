import PaperSearch.Paper.Page

/-!
# Parts of a page

A page is made of parts, one for each field that is there and one for each item of a list, and so
are its entries and their authors. Setting the parts one after another gives the whole again
(`Page.foldl_parts`), in every order that keeps parts of one element in order
(`foldl_eq_of_arranged`), since parts of different elements set different fields.

`Page.Normal` asks of each part what its element can say: texts with their white space collapsed,
no empty text where a text may be left out, and years of four digits.
-/

namespace PaperSearch

/-! ## Orders of parts -/

section Arranged

variable {α β : Type} {element : α → String} {written parts : List α}

/-- The written parts are these in some order, which is theirs among the parts of one element. -/
def Arranged (element : α → String) (written parts : List α) : Prop :=
  ∀ name, (written.filter fun part => element part == name) =
    parts.filter fun part => element part == name

theorem Arranged.mem (h : Arranged element written parts) {part : α} (hmem : part ∈ written) :
    part ∈ parts := by
  have hfilter : part ∈ written.filter fun other => element other == element part :=
    List.mem_filter.mpr ⟨hmem, beq_self_eq_true _⟩
  rw [h] at hfilter
  exact (List.mem_filter.mp hfilter).1

/-- Elements of neither list need no look. -/
theorem arranged_iff : Arranged element written parts ↔ ∀ part ∈ written ++ parts,
    (written.filter fun other => element other == element part) =
      parts.filter fun other => element other == element part := by
  refine ⟨fun h part _ => h (element part), fun h name => ?_⟩
  by_cases hmem : ∃ part ∈ written ++ parts, element part = name
  · obtain ⟨part, hpart, rfl⟩ := hmem
    exact h part hpart
  · have hnil : ∀ {l : List α}, (∀ part ∈ l, part ∈ written ++ parts) →
        (l.filter fun part => element part == name) = [] := by
      intro l hl
      refine List.filter_eq_nil_iff.mpr fun part hpart heq => hmem ⟨part, hl part hpart, ?_⟩
      exact beq_iff_eq.mp heq
    rw [hnil fun part => List.mem_append_left parts, hnil fun part => List.mem_append_right written]

instance [DecidableEq α] : Decidable (Arranged element written parts) :=
  decidable_of_iff _ arranged_iff.symm

/-- Only parts of other elements stand before the part that is written first. -/
theorem Arranged.exists_of_cons {part : α} (h : Arranged element (part :: written) parts) :
    ∃ before after, parts = before ++ part :: after ∧
      (∀ other ∈ before, element other ≠ element part) ∧
      Arranged element written (before ++ after) := by
  have hfirst := h (element part)
  rw [List.filter_cons, if_pos (beq_self_eq_true _)] at hfirst
  obtain ⟨before, after, rfl, hbefore, -, hafter⟩ := List.filter_eq_cons_iff.mp hfirst.symm
  refine ⟨before, after, rfl, fun other hother => by simpa using hbefore other hother,
    fun name => ?_⟩
  by_cases hname : element part = name
  · rw [← hname, List.filter_append, hafter, List.filter_eq_nil_iff.mpr hbefore, List.nil_append]
  · have hothers := h name
    have hpart : ¬ (element part == name) = true := by simpa using hname
    rwa [List.filter_cons, if_neg hpart, List.filter_append, List.filter_cons, if_neg hpart,
      ← List.filter_append] at hothers

variable {set : β → α → β}
  (hset : ∀ b p q, element p ≠ element q → set (set b p) q = set (set b q) p)

include hset

/-- A part can be set before parts of other elements. -/
theorem foldl_exchange {part : α} {before : List α}
    (hbefore : ∀ other ∈ before, element other ≠ element part) (b : β) :
    set (before.foldl set b) part = before.foldl set (set b part) := by
  induction before generalizing b with
  | nil => rfl
  | cons p before ih =>
    rw [List.foldl_cons, List.foldl_cons, ih fun q hq => hbefore q (List.mem_cons_of_mem p hq),
      hset b p part (hbefore p List.mem_cons_self)]

/-- **Orders do not matter** where parts of different elements can be exchanged. -/
theorem foldl_eq_of_arranged (h : Arranged element written parts) (b : β) :
    written.foldl set b = parts.foldl set b := by
  induction written generalizing parts b with
  | nil =>
    have hback : Arranged element parts [] := fun name => (h name).symm
    have hnil : parts = [] := List.eq_nil_iff_forall_not_mem.mpr fun _ hmem =>
      List.not_mem_nil (hback.mem hmem)
    rw [hnil]
  | cons part written ih =>
    obtain ⟨before, after, rfl, hbefore, hrest⟩ := h.exists_of_cons
    rw [List.foldl_cons, ih hrest, List.foldl_append, List.foldl_append, List.foldl_cons,
      foldl_exchange hset hbefore]

end Arranged

/-- Setting a list of parts of one element adds the list to a field. -/
theorem foldl_map_part {α β γ : Type} (part : γ → α) (set : β → α → β) (add : β → List γ → β)
    (hnil : ∀ b, add b [] = b) (hcons : ∀ b c cs, add (set b (part c)) cs = add b (c :: cs))
    (cs : List γ) (b : β) : (cs.map part).foldl set b = add b cs := by
  induction cs generalizing b with
  | nil => exact (hnil b).symm
  | cons c cs ih => rw [List.map_cons, List.foldl_cons, ih, hcons]

/-- A text whose words stand apart by one space, with none around them. -/
def Text.IsCollapsed (s : String) : Prop :=
  collapse s.toList = s.toList

instance (s : String) : Decidable (Text.IsCollapsed s) :=
  inferInstanceAs (Decidable (Text.collapse s.toList = s.toList))

/-! ## Authors -/

inductive AuthorPart where
  | name (s : String)
  | affiliation (s : String)
  deriving DecidableEq, Repr

namespace AuthorPart

def element : AuthorPart → String
  | name _ => "name"
  | affiliation _ => "affiliation"

def set (a : Author) : AuthorPart → Author
  | name s => { a with name := s }
  | affiliation s => { a with affiliation := some s }

/-- What an element can say. -/
def Normal : AuthorPart → Prop
  | name s => Text.IsCollapsed s
  | affiliation s => Text.IsCollapsed s ∧ s ≠ ""

instance : DecidablePred Normal
  | name s => inferInstanceAs (Decidable (Text.IsCollapsed s))
  | affiliation s => inferInstanceAs (Decidable (Text.IsCollapsed s ∧ s ≠ ""))

theorem set_set {p q : AuthorPart} (h : p.element ≠ q.element) (a : Author) :
    set (set a p) q = set (set a q) p := by
  cases p <;> cases q <;> first | rfl | exact absurd rfl h

end AuthorPart

namespace Author

def parts (a : Author) : List AuthorPart :=
  .name a.name :: (a.affiliation.map .affiliation).toList

def Normal (a : Author) : Prop :=
  ∀ part ∈ a.parts, part.Normal

instance (a : Author) : Decidable a.Normal :=
  inferInstanceAs (Decidable (∀ part ∈ a.parts, part.Normal))

theorem foldl_parts (a : Author) : a.parts.foldl AuthorPart.set ⟨"", none⟩ = a := by
  obtain ⟨name, affiliation⟩ := a
  cases affiliation <;> rfl

end Author

/-! ## Entries -/

inductive EntryPart where
  | id (s : String)
  | title (s : String)
  | summary (s : String)
  | published (t : Time.Instant)
  | updated (t : Time.Instant)
  | author (a : Author)
  | category (c : Category)
  | primaryCategory (c : Category)
  | link (l : Link)
  | comment (s : String)
  | journalRef (s : String)
  | doi (s : String)
  deriving DecidableEq, Repr

namespace EntryPart

def element : EntryPart → String
  | id _ => "id"
  | title _ => "title"
  | summary _ => "summary"
  | published _ => "published"
  | updated _ => "updated"
  | author _ => "author"
  | category _ => "category"
  | primaryCategory _ => "primary_category"
  | link _ => "link"
  | comment _ => "comment"
  | journalRef _ => "journal_ref"
  | doi _ => "doi"

def set (e : Entry) : EntryPart → Entry
  | id s => { e with id := s }
  | title s => { e with title := s }
  | summary s => { e with summary := s }
  | published t => { e with published := some t }
  | updated t => { e with updated := some t }
  | author a => { e with authors := e.authors ++ [a] }
  | category c => { e with categories := e.categories ++ [c] }
  | primaryCategory c => { e with primaryCategory := some c }
  | link l => { e with links := e.links ++ [l] }
  | comment s => { e with comment := some s }
  | journalRef s => { e with journalRef := some s }
  | doi s => { e with doi := some s }

/-- What an element can say. Timestamps have four digits for the year. -/
def Normal : EntryPart → Prop
  | id s | title s | summary s => Text.IsCollapsed s
  | published t | updated t => 0 ≤ t.date.year ∧ t.date.year ≤ 9999
  | author a => a.Normal
  | category _ | primaryCategory _ | link _ => True
  | comment s | journalRef s | doi s => Text.IsCollapsed s ∧ s ≠ ""

instance : DecidablePred Normal
  | id s | title s | summary s => inferInstanceAs (Decidable (Text.IsCollapsed s))
  | published t | updated t =>
    inferInstanceAs (Decidable (0 ≤ t.date.year ∧ t.date.year ≤ 9999))
  | author a => inferInstanceAs (Decidable a.Normal)
  | category _ | primaryCategory _ | link _ => inferInstanceAs (Decidable True)
  | comment s | journalRef s | doi s =>
    inferInstanceAs (Decidable (Text.IsCollapsed s ∧ s ≠ ""))

theorem set_set {p q : EntryPart} (h : p.element ≠ q.element) (e : Entry) :
    set (set e p) q = set (set e q) p := by
  cases p <;> cases q <;> first | rfl | exact absurd rfl h

end EntryPart

namespace Entry

def parts (e : Entry) : List EntryPart :=
  [.id e.id, .title e.title, .summary e.summary] ++ (e.published.map .published).toList ++
    (e.updated.map .updated).toList ++ e.authors.map .author ++ e.categories.map .category ++
    (e.primaryCategory.map .primaryCategory).toList ++ e.links.map .link ++
    (e.comment.map .comment).toList ++ (e.journalRef.map .journalRef).toList ++
    (e.doi.map .doi).toList

def Normal (e : Entry) : Prop :=
  ∀ part ∈ e.parts, part.Normal

instance (e : Entry) : Decidable e.Normal :=
  inferInstanceAs (Decidable (∀ part ∈ e.parts, part.Normal))

theorem foldl_parts (e : Entry) : e.parts.foldl EntryPart.set default = e := by
  have hauthors := foldl_map_part EntryPart.author EntryPart.set
    (fun e as => { e with authors := e.authors ++ as }) (fun e => by simp)
    (fun e a as => by simp [EntryPart.set])
  have hcategories := foldl_map_part EntryPart.category EntryPart.set
    (fun e cs => { e with categories := e.categories ++ cs }) (fun e => by simp)
    (fun e c cs => by simp [EntryPart.set])
  have hlinks := foldl_map_part EntryPart.link EntryPart.set
    (fun e ls => { e with links := e.links ++ ls }) (fun e => by simp)
    (fun e l ls => by simp [EntryPart.set])
  obtain ⟨id, title, summary, published, updated, authors, categories, primaryCategory, links,
    comment, journalRef, doi⟩ := e
  simp only [parts, List.foldl_append, hauthors, hcategories, hlinks]
  cases published <;> cases updated <;> cases primaryCategory <;> cases comment <;>
    cases journalRef <;> cases doi <;> rfl

end Entry

/-! ## Pages -/

inductive PagePart where
  | title (s : String)
  | id (s : String)
  | updated (s : String)
  | total (n : UInt64)
  | start (n : UInt64)
  | perPage (n : UInt64)
  | link (l : Link)
  | entry (e : Entry)
  deriving DecidableEq, Repr

namespace PagePart

def element : PagePart → String
  | title _ => "title"
  | id _ => "id"
  | updated _ => "updated"
  | total _ => "totalResults"
  | start _ => "startIndex"
  | perPage _ => "itemsPerPage"
  | link _ => "link"
  | entry _ => "entry"

def set (p : Page) : PagePart → Page
  | title s => { p with title := s }
  | id s => { p with id := s }
  | updated s => { p with updated := s }
  | total n => { p with total := n }
  | start n => { p with start := n }
  | perPage n => { p with perPage := n }
  | link l => { p with links := p.links ++ [l] }
  | entry e => { p with entries := p.entries ++ [e] }

/-- What an element can say. -/
def Normal : PagePart → Prop
  | title s | id s | updated s => Text.IsCollapsed s
  | total _ | start _ | perPage _ | link _ => True
  | entry e => e.Normal

instance : DecidablePred Normal
  | title s | id s | updated s => inferInstanceAs (Decidable (Text.IsCollapsed s))
  | total _ | start _ | perPage _ | link _ => inferInstanceAs (Decidable True)
  | entry e => inferInstanceAs (Decidable e.Normal)

theorem set_set {p q : PagePart} (h : p.element ≠ q.element) (page : Page) :
    set (set page p) q = set (set page q) p := by
  cases p <;> cases q <;> first | rfl | exact absurd rfl h

end PagePart

namespace Page

def parts (p : Page) : List PagePart :=
  [.title p.title, .id p.id, .updated p.updated, .total p.total, .start p.start,
    .perPage p.perPage] ++ p.links.map .link ++ p.entries.map .entry

def Normal (p : Page) : Prop :=
  ∀ part ∈ p.parts, part.Normal

instance (p : Page) : Decidable p.Normal :=
  inferInstanceAs (Decidable (∀ part ∈ p.parts, part.Normal))

/-- The parameters of a page are no part of it. -/
theorem foldl_parts {p : Page} (h : p.params = Params.default) :
    p.parts.foldl PagePart.set default = p := by
  have hlinks := foldl_map_part PagePart.link PagePart.set
    (fun p ls => { p with links := p.links ++ ls }) (fun p => by simp)
    (fun p l ls => by simp [PagePart.set])
  have hentries := foldl_map_part PagePart.entry PagePart.set
    (fun p es => { p with entries := p.entries ++ es }) (fun p => by simp)
    (fun p e es => by simp [PagePart.set])
  obtain ⟨entries, start, perPage, total, title, id, updated, links, params⟩ := p
  cases h
  simp only [parts, List.foldl_append, hlinks, hentries]
  rfl

end Page

end PaperSearch
