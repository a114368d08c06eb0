import PaperSearch.Proofs.Client.Draining
import PaperSearch.Proofs.Client.Watching

/-!
# Turning pages by hand

A caller may do without an iterator: search once, and then ask for the page after each page until
that fails (`Client.turn`, `Client.Leafs`). The iterator keeps the parameters of the next page, the
caller the last page, and they stop by different tests.

`Iter.Abreast` is what holds of an iterator whose caller is at the same page. A page takes both one
further (`Abreast.more`), and so do any number of them, in either direction (`Abreast.leafs`,
`Abreast.back`, by induction on the pages and on the searches). An error ends both
(`Abreast.ends`). `Client.paces` puts it together.
-/

namespace PaperSearch

variable {σ : Type}

namespace Client

/-- What a caller asks for who turns the pages by hand: the first page, or the one after the
last. -/
def turn (c : Client σ) (params : Params) : Option Page → Search σ (Result Page)
  | none => c.search params
  | some page => c.searchNext page

/-- Pages that are turned one after another, from a last page and a session to a last page and a
session. -/
inductive Leafs (c : Client σ) (params : Params) :
    Option Page → Session σ → List Page → Option Page → Session σ → Prop
  | none (last : Option Page) (s : Session σ) : Leafs c params last s [] last s
  | more {last last' : Option Page} {s s₁ s' : Session σ} {page : Page} {pages : List Page}
      (h : (c.turn params last).run s = (.ok page, s₁))
      (rest : Leafs c params (some page) s₁ pages last' s') :
      Leafs c params last s (page :: pages) last' s'

end Client

/-- The search that has brought a page. -/
def Page.fetch (page : Page) : Fetch :=
  ⟨page.params, .ok page⟩

theorem entriesOf_fetch (pages : List Page) :
    entriesOf (pages.map Page.fetch) = pages.flatMap Page.entries :=
  List.flatMap_map ..

theorem pagesIn_fetch (pages : List Page) : pagesIn (pages.map Page.fetch) = pages.length := by
  unfold pagesIn
  rw [List.countP_map]
  exact List.countP_eq_length.mpr fun _ _ => rfl

/-- Nothing is sent when a search is reported. -/
theorem Fetch.exchanges_reported (f : Fetch) (s : Session σ) :
    Happening.exchanges (f.reported s).trace = Happening.exchanges s.trace := by
  obtain ⟨request, result⟩ := f
  cases result with
  | ok page => rfl
  | error error => exact (s.continues_see _).exchanges.trans (List.append_nil _)

/-! ## Searches of an iterator one after another -/

namespace Iter

variable {c : Client σ} {it it' : Iter} {s s' : Session σ} {made : List Fetch}

theorem Advances.append {it'' : Iter} {s'' : Session σ} {more : List Fetch}
    (h : it.Advances c s made it' s') (h' : it'.Advances c s' more it'' s'') :
    it.Advances c s (made ++ more) it'' s'' := by
  induction h with
  | none => exact h'
  | more hdone _ ih => exact .more hdone (ih h')

/-- Entries are given, as many as are asked for. -/
def Gives (c : Client σ) (it : Iter) (s : Session σ) (entries : List Entry) : Prop :=
  ∀ n ≤ entries.length, ∃ it' s', it.take c n s = some ((entries.take n, it'), s')

theorem Gives.pop {e : Entry} {rest entries : List Entry} (hbuffer : it.buffer = e :: rest)
    (h : { it with buffer := rest }.Gives c s entries) : it.Gives c s (e :: entries) := by
  intro n hn
  cases n with
  | zero => exact ⟨it, s, rfl⟩
  | succ n =>
    obtain ⟨it', s', hrest⟩ := h n (Nat.le_of_succ_le_succ hn)
    exact ⟨it', s', take_of_buffer hbuffer hrest⟩

theorem Gives.give {entries : List Entry} (h : it.emptied.Gives c s entries) :
    it.Gives c s (it.buffer ++ entries) := by
  induction hbuffer : it.buffer generalizing it with
  | nil =>
    rw [emptied_eq hbuffer] at h
    exact h
  | cons e rest ih => exact pop hbuffer (ih h rfl)

/-- Searches one after another give what they bring. -/
theorem Advances.gives (h : it.Advances c s made it' s') (hbuffer : it.buffer = []) :
    it.Gives c s (entriesOf made) := by
  induction h with
  | none it s =>
    intro n hn
    obtain rfl : n = 0 := Nat.le_zero.mp hn
    exact ⟨it, s, rfl⟩
  | @more it it' s s' made hdone rest ih =>
    have hgives := Gives.give (ih rfl)
    rw [buffer_fetch hbuffer] at hgives
    intro n hn
    cases n with
    | zero => exact ⟨it, s, rfl⟩
    | succ n =>
      rw [take_of_fetch hbuffer hdone]
      exact hgives (n + 1) hn

end Iter

/-! ## Abreast -/

/-- An iterator whose entries have been given is where its caller is. -/
structure Iter.Abreast (c : Client σ) (params : Params) (it : Iter) (last : Option Page) :
    Prop where
  buffer : it.buffer = []
  token : it.token = .fresh
  lastError : it.lastError = none
  /-- Both ask for the same page. -/
  asks : it.done = false → c.turn params last = c.search it.params
  /-- If the iterator is done, then the caller has come to the last page. -/
  stops : it.done = true → c.turn params last = pure (.error (.exhausted .next))

namespace Iter.Abreast

variable {c : Client σ} {params : Params} {it : Iter} {last : Option Page} {s s' : Session σ}

theorem start (c : Client σ) (params : Params) : (Iter.start params .fresh).Abreast c params none :=
  ⟨rfl, rfl, rfl, fun _ => rfl, nofun⟩

/-- The search of the iterator is the one of its caller. -/
theorem run_search (h : it.Abreast c params last) (hdone : it.done = false) {result : Result Page}
    (hrun : (c.turn params last).run s = (result, s')) :
    (c.searchWith it.token it.params).run s = (result, s') := by
  rw [h.token, ← hrun, h.asks hdone]
  rfl

/-- A caller whose iterator is done is told so, and nothing happens. -/
theorem eq_of_done (h : it.Abreast c params last) (hdone : it.done = true) {result : Result Page}
    (hrun : (c.turn params last).run s = (result, s')) :
    result = .error (.exhausted .next) ∧ s' = s := by
  rw [h.stops hdone] at hrun
  obtain ⟨hresult, hsession⟩ := Prod.mk.inj hrun
  exact ⟨hresult.symm, hsession.symm⟩

variable (hwatch : ∀ i ∈ c.interceptors, i.Watches)
include hwatch

/-- A page takes both one page further. -/
theorem more (h : it.Abreast c params last) (hdone : it.done = false) {page : Page}
    (hrun : (c.turn params last).run s = (.ok page, s')) (hwide : 0 < page.perPage) :
    (it.fetch c).run s = (it.afterPage page, s') ∧ it.fetched c s = page.fetch ∧
      (it.afterPage page).emptied.Abreast c params (some page) := by
  have hsearch := h.run_search hdone hrun
  have hown : (c.search it.params).run s = (.ok page, s') := by
    rw [← hsearch, h.token]
    rfl
  obtain ⟨htoken, hparams, -⟩ := Client.search_of_watchers hwatch hown
  have hparams : page.params = it.params := hparams page rfl
  have hkept : { it with token := s'.token } = it := by
    rw [htoken, ← h.token]
  refine ⟨?_, ?_, ?_⟩
  · unfold fetch
    rw [Search.run_bind, hsearch]
    show ({ it with token := s'.token }.afterPage page, s') = _
    rw [hkept]
  · unfold fetched
    rw [hsearch, ← hparams]
    rfl
  · have hdone' : (it.afterPage page).done = !page.hasMore := by
      show (it.done || !(page.hasMore && decide (0 < page.perPage))) = !page.hasMore
      rw [hdone, decide_eq_true hwide, Bool.and_true]
      rfl
    refine ⟨rfl, h.token, h.lastError, fun hmore => ?_, fun hmore => ?_⟩
    · have hmore : page.hasMore = true := by
        rw [← Bool.not_eq_false', ← hdone']
        exact hmore
      have hnext : (it.afterPage page).params = { it.params with start := page.nextStart } := by
        show (if page.hasMore && decide (0 < page.perPage) then _ else _) = _
        rw [hmore, decide_eq_true hwide]
        rfl
      show c.searchNext page = c.search (it.afterPage page).params
      unfold Client.searchNext
      rw [hmore, hnext, hparams]
      rfl
    · have hmore : page.hasMore = false := by
        rw [← Bool.not_eq_true', ← hdone']
        exact hmore
      show c.searchNext page = _
      unfold Client.searchNext
      rw [hmore]
      rfl

/-- The iterator keeps and reports the error that its caller is given. -/
theorem fails (h : it.Abreast c params last) (hdone : it.done = false) {error : SearchError}
    (hrun : (c.turn params last).run s = (.error error, s')) :
    error ≠ .exhausted .next ∧ it.fetched c s = ⟨it.params, .error error⟩ ∧
      (it.fetch c).run s = ({ it with token := s'.token }.afterError error,
        Fetch.reported ⟨it.params, .error error⟩ s') := by
  have hsearch := h.run_search hdone hrun
  have hown : (c.search it.params).run s = (.error error, s') := by
    rw [← hsearch, h.token]
    rfl
  obtain ⟨-, -, hexhausted⟩ := Client.search_of_watchers hwatch hown
  refine ⟨fun heq => hexhausted .next (congrArg Except.error heq), ?_, ?_⟩
  · unfold fetched
    rw [hsearch]
  · unfold fetch
    rw [Search.run_bind, hsearch]
    rfl

/-- An error ends both, with the same requests. -/
theorem ends (h : it.Abreast c params last) {error : SearchError}
    (hrun : (c.turn params last).run s = (.error error, s')) :
    ∃ made it' s'', it.Advances c s made it' s'' ∧ entriesOf made = [] ∧ pagesIn made = 0 ∧
      it'.done = true ∧ Happening.exchanges s''.trace = Happening.exchanges s'.trace ∧
      (it'.lastError = none ↔ error = .exhausted .next) ∧
      (error ≠ .exhausted .next → it'.lastError = some error) := by
  cases hdone : it.done with
  | true =>
    obtain ⟨herror, rfl⟩ := h.eq_of_done hdone hrun
    have herror : error = .exhausted .next := Except.error.inj herror
    exact ⟨[], it, s', .none it s', rfl, rfl, hdone, rfl, ⟨fun _ => herror, fun _ => h.lastError⟩,
      fun hne => absurd herror hne⟩
  | false =>
    obtain ⟨hne, hfetched, hfetch⟩ := h.fails hwatch hdone hrun
    have hmade : it.Advances c s [it.fetched c s] ((it.fetch c).run s).1.emptied
        ((it.fetch c).run s).2 := .more hdone (.none _ _)
    rw [hfetched, hfetch] at hmade
    exact ⟨_, _, _, hmade, rfl, rfl, rfl, Fetch.exchanges_reported _ s',
      ⟨nofun, fun heq => absurd heq hne⟩, fun _ => rfl⟩

/-- The iterator makes the searches that bring the pages of its caller. -/
theorem leafs (h : it.Abreast c params last) {pages : List Page} {last' : Option Page}
    (hleafs : c.Leafs params last s pages last' s') (hwide : ∀ page ∈ pages, 0 < page.perPage) :
    ∃ it', it.Advances c s (pages.map Page.fetch) it' s' ∧ it'.Abreast c params last' := by
  induction hleafs generalizing it with
  | none last s => exact ⟨it, .none it s, h⟩
  | @more last last' s s₁ s' page pages hrun rest ih =>
    cases hdone : it.done with
    | true =>
      obtain ⟨hresult, -⟩ := h.eq_of_done hdone hrun
      cases hresult
    | false =>
      obtain ⟨hfetch, hfetched, habreast⟩ :=
        h.more hwatch hdone hrun (hwide page List.mem_cons_self)
      obtain ⟨it', hadvances, habreast'⟩ :=
        ih habreast fun page' hpage => hwide page' (List.mem_cons_of_mem page hpage)
      refine ⟨it', ?_, habreast'⟩
      rw [List.map_cons, ← hfetched]
      refine .more hdone ?_
      rw [hfetch]
      exact hadvances

/-- What the iterator finds its caller finds too: the same pages, and then the same error. -/
theorem back (h : it.Abreast c params last) {made : List Fetch} {it' : Iter}
    (hadvances : it.Advances c s made it' s')
    (hwide : ∀ f ∈ made, ∀ page, f.result = .ok page → 0 < page.perPage) :
    ∃ pages last' s₁, c.Leafs params last s pages last' s₁ ∧
      (made = pages.map Page.fetch ∧ s₁ = s' ∧ it'.Abreast c params last' ∨
        ∃ request error s₂, made = pages.map Page.fetch ++ [⟨request, .error error⟩] ∧
          (c.turn params last').run s₁ = (.error error, s₂) ∧ it'.done = true ∧
          Happening.exchanges s'.trace = Happening.exchanges s₂.trace) := by
  induction hadvances generalizing last with
  | none it s => exact ⟨[], last, s, .none last s, .inl ⟨rfl, rfl, h⟩⟩
  | @more it it' s s' made hdone rest ih =>
    rcases hrun : (c.turn params last).run s with ⟨result, s₁⟩
    cases result with
    | error error =>
      obtain ⟨-, hfetched, hfetch⟩ := h.fails hwatch hdone hrun
      rw [hfetch] at rest
      cases rest with
      | none =>
        refine ⟨[], last, s, .none last s, .inr ⟨it.params, error, s₁, ?_, hrun, rfl, ?_⟩⟩
        · rw [hfetched]
          rfl
        · exact Fetch.exchanges_reported _ s₁
      | more hmore => cases hmore
    | ok page =>
      have hresult : (it.fetched c s).result = .ok page :=
        congrArg Prod.fst (h.run_search hdone hrun)
      obtain ⟨hfetch, hfetched, habreast⟩ :=
        h.more hwatch hdone hrun (hwide _ List.mem_cons_self page hresult)
      rw [hfetch] at ih
      obtain ⟨pages, last', s₂, hleafs, hends⟩ :=
        ih habreast fun f hf => hwide f (List.mem_cons_of_mem _ hf)
      refine ⟨page :: pages, last', s₂, .more hrun hleafs, ?_⟩
      rw [hfetched]
      rcases hends with ⟨rfl, hrest⟩ | ⟨request, error, s₃, rfl, hrest⟩
      · exact .inl ⟨rfl, hrest⟩
      · exact .inr ⟨request, error, s₃, rfl, hrest⟩

end Iter.Abreast

/-! ## Agreement -/

/-- How an iterator and a caller who turns the pages by hand agree, starting from one session. -/
structure Client.Paces (c : Client σ) (params : Params) (s : Session σ) : Prop where
  /-- Whatever pages the caller finds, the iterator makes the searches that bring them and comes to
  the same session, and it gives their entries, as many as are asked for. -/
  pages : ∀ pages last s', c.Leafs params none s pages last s' →
    (∀ page ∈ pages, 0 < page.perPage) →
    (∃ it, (Iter.start params .fresh).Advances c s (pages.map Page.fetch) it s' ∧
      it.pagesFetched = pages.length ∧ it.lastError = none) ∧
    (Iter.start params .fresh).Gives c s (pages.flatMap Page.entries)
  /-- When an error ends the pages, the iterator gives their entries and then no more. The same
  requests were sent, and the error is kept unless it says that there are no more pages. -/
  ends : ∀ pages last s₁ error s₂, c.Leafs params none s pages last s₁ →
    (∀ page ∈ pages, 0 < page.perPage) → (c.turn params last).run s₁ = (.error error, s₂) →
    ∃ it s', (Iter.start params .fresh).Drains c s (pages.flatMap Page.entries) it s' ∧
      Happening.exchanges s'.trace = Happening.exchanges s₂.trace ∧
      it.pagesFetched = pages.length ∧ (it.lastError = none ↔ error = .exhausted .next) ∧
      (error ≠ .exhausted .next → it.lastError = some error)
  /-- Whatever searches the iterator makes, the caller finds the pages that they bring, and when
  the iterator is done, the caller is at an error. -/
  back : ∀ made it s', (Iter.start params .fresh).Advances c s made it s' →
    (∀ f ∈ made, ∀ page, f.result = .ok page → 0 < page.perPage) →
    ∃ pages last s₁, c.Leafs params none s pages last s₁ ∧
      (it.done = false → made = pages.map Page.fetch ∧ s₁ = s') ∧
      (it.done = true → ∃ error s₂, (c.turn params last).run s₁ = (.error error, s₂) ∧
        Happening.exchanges s'.trace = Happening.exchanges s₂.trace)

/-- **Turning pages by hand.** A caller who searches once and then asks for the page after each page
finds what an iterator finds, page by page, when the interceptors of the client only report searches
and call hooks and no page is without width. -/
theorem Client.paces (c : Client σ) (hwatch : ∀ i ∈ c.interceptors, i.IsWatcher) (params : Params)
    (s : Session σ) : c.Paces params s := by
  have hwatches : ∀ i ∈ c.interceptors, i.Watches := fun i hi => (hwatch i hi).watches
  have hstart := Iter.Abreast.start c params
  refine ⟨fun pages last s' hleafs hwide => ?_, fun pages last s₁ error s₂ hleafs hwide hrun => ?_,
    fun made it s' hadvances hwide => ?_⟩
  · obtain ⟨it, hadvances, habreast⟩ := hstart.leafs hwatches hleafs hwide
    have hpages := hadvances.pagesFetched_eq
    rw [pagesIn_fetch] at hpages
    have hgives := hadvances.gives rfl
    rw [entriesOf_fetch] at hgives
    exact ⟨⟨it, hadvances, hpages.trans (Nat.zero_add _), habreast.lastError⟩, hgives⟩
  · obtain ⟨it, hadvances, habreast⟩ := hstart.leafs hwatches hleafs hwide
    obtain ⟨made, it', s', hlast, hnone, hzero, hdone, hexchanges, hends⟩ :=
      habreast.ends hwatches hrun
    have hall := hadvances.append hlast
    have hdrains := hall.drains rfl hdone
    rw [entriesOf_append, hnone, List.append_nil, entriesOf_fetch] at hdrains
    have hpages := hlast.pagesFetched_eq
    rw [hzero, hadvances.pagesFetched_eq, pagesIn_fetch] at hpages
    exact ⟨it', s', hdrains, hexchanges, hpages.trans (Nat.zero_add _), hends⟩
  · obtain ⟨pages, last, s₁, hleafs, hends⟩ := hstart.back hwatches hadvances hwide
    refine ⟨pages, last, s₁, hleafs, fun hnot => ?_, fun hdone => ?_⟩
    · rcases hends with ⟨hmade, hsession, -⟩ | ⟨_, _, _, -, -, hdone, -⟩
      · exact ⟨hmade, hsession⟩
      · rw [hnot] at hdone
        cases hdone
    · rcases hends with ⟨-, rfl, habreast⟩ | ⟨_, error, s₂, -, hrun, -, hexchanges⟩
      · refine ⟨.exhausted .next, s₁, ?_, rfl⟩
        rw [habreast.stops hdone]
        rfl
      · exact ⟨error, s₂, hrun, hexchanges⟩

/-- One of two pages with an entry each. -/
def oneOfTwo (start : UInt64) : Page :=
  { Page.default with entries := [.default], start, perPage := 1, total := 2 }

/-- A client that reports its searches, and whose server has those pages. -/
def twofold : Client Unit where
  engine :=
    ⟨⟨fun _ _ _ => .zero, fun _ encoded s => (.ok ⟨200, encoded⟩, s), fun _ _ s => s⟩,
      fun response => .ok (oneOfTwo (if response.body = Params.default.encode then 0 else 1)),
      .get, none, fun _ => 0⟩
  interceptors := [logging]

theorem isWatcher_twofold : ∀ i ∈ twofold.interceptors, i.IsWatcher :=
  fun _ hi => .inl (List.mem_singleton.mp hi)

theorem exists_run_search_twofold (params : Params) (hvalid : params.check = .ok ())
    (s : Session Unit) : ∃ s', (twofold.search params).run s = (.ok
      { oneOfTwo (if params.encode = Params.default.encode then 0 else 1) with params }, s') :=
  Client.exists_run_search_of_page (fun i hi => (isWatcher_twofold i hi).watches) hvalid rfl rfl
    rfl

/-- Both pages are found by hand, and then no more. -/
theorem exists_leafs_twofold (s : Session Unit) : ∃ pages last s₁,
    twofold.Leafs .default none s pages last s₁ ∧ (∀ page ∈ pages, 0 < page.perPage) ∧
      pages.flatMap Page.entries = [.default, .default] ∧ pages.length = 2 ∧
      (twofold.turn .default last).run s₁ = (.error (.exhausted .next), s₁) := by
  have hother : { Params.default with start := 1 }.encode ≠ Params.default.encode := by
    decide +kernel
  obtain ⟨s₁, hfirst⟩ := exists_run_search_twofold .default rfl s
  obtain ⟨s₂, hsecond⟩ := exists_run_search_twofold { Params.default with start := 1 } rfl s₁
  rw [if_pos rfl] at hfirst
  rw [if_neg hother] at hsecond
  refine ⟨_, _, s₂, .more hfirst (.more hsecond (.none _ _)), ?_, rfl, rfl, rfl⟩
  intro page hpage
  rcases List.mem_cons.mp hpage with rfl | hpage
  · decide
  · rw [List.mem_singleton.mp hpage]
    decide

/-- The iterator gives both entries and stops without an error. -/
theorem Client.paces_twofold : (∀ i ∈ twofold.interceptors, i.IsWatcher) ∧
    ∃ it s', (Iter.start .default .fresh).Drains twofold idle [.default, .default] it s' ∧
      it.pagesFetched = 2 ∧ it.lastError = none := by
  obtain ⟨pages, last, s₁, hleafs, hwide, hentries, hlength, hrun⟩ := exists_leafs_twofold idle
  obtain ⟨it, s', hdrains, -, hpages, herror, -⟩ :=
    (Client.paces twofold isWatcher_twofold .default idle).ends pages last s₁ _ s₁ hleafs hwide
      hrun
  rw [hentries] at hdrains
  exact ⟨isWatcher_twofold, it, s', hdrains, hpages.trans hlength, herror.mpr rfl⟩

end PaperSearch
