import Mathlib.Data.Finset.Card
import PaperSearch.Proofs.Client.Sending

/-!
# Draining an iterator

A caller drains an iterator who asks it for entries until there are no more (`Iter.Drains`). It may
never come to that: the next search starts where the last page says that it ends, and a server may
say anything. A page stalls the iterator if it ends no further on than where it was asked to start
(`Fetch.Stalls`).

* `Chained.progress`: the searches of an iterator start further and further on exactly if no page
  that another one follows stalls it, and then there are 30001 pages at most.
* `Iter.exists_advances`: an iterator goes on until it is done or a page stalls it, by induction on
  how far the start may still move.
* `Iter.Advances.drains`: an iterator that gets done is drained of what its searches bring.
-/

namespace PaperSearch

variable {σ : Type}

/-! ## Searches that bring a page -/

/-- A search that brings a page was within bounds. -/
theorem Client.inBounds_of_searchWith {c : Client σ} {token : Cancellation} {params : Params}
    {s : Session σ} (h : ((c.searchWith token params).run s).1.isOk = true) : params.InBounds := by
  by_contra hbounds
  obtain ⟨cause, hcause⟩ := Params.exists_check_eq_error hbounds
  rw [c.run_searchWith_of_error hcause] at h
  cases h

/-- An iterator of a client without interceptors fetches a page that the server has. -/
theorem Iter.run_fetch_of_page {e : Engine σ} {it : Iter} {s : Session σ} {response : Response}
    {page : Page} (htoken : it.token = .fresh) (hvalid : it.params.check = .ok ())
    (hexchange : (e.transport.exchange e.method it.params.encode s.server).1 = .ok response)
    (hstatus : response.status = 200) (hdecode : e.decode response = .ok page) :
    ∃ s', (it.fetch ⟨e, []⟩).run s = (it.afterPage { page with params := it.params }, s') ∧
      Happening.exchanges s'.trace =
        Happening.exchanges s.trace ++ [(e.method, it.params.encode)] := by
  have hfresh : (s.under .fresh).token = .fresh := rfl
  obtain ⟨s', hrun, hgoes⟩ := e.run_execute_of_page hvalid hfresh hexchange hstatus hdecode
  have hsearch : ((⟨e, []⟩ : Client σ).searchWith it.token it.params).run s =
      (.ok { page with params := it.params }, s') := by
    rw [← hrun, htoken]
    exact Client.run_searchWith_of_ok hvalid .fresh s
  refine ⟨s', ?_, hgoes.exchanges⟩
  have hkept : { it with token := s'.token } = it := by
    rw [hgoes.token]
    show { it with token := .fresh } = it
    rw [← htoken]
  unfold fetch
  rw [Search.run_bind, hsearch]
  show ({ it with token := s'.token }.afterPage _, s') = _
  rw [hkept]

/-! ## Draining -/

/-- Entries are given, and then no more, however many are asked for. -/
def Iter.Drains (c : Client σ) (it : Iter) (s : Session σ) (entries : List Entry) (it' : Iter)
    (s' : Session σ) : Prop :=
  ∀ n, entries.length < n → it.take c n s = some ((entries, it'), s')

/-- The iterator when its entries have been given. -/
def Iter.emptied (it : Iter) : Iter :=
  { it with buffer := [] }

namespace Iter

variable {c : Client σ} {it it' : Iter} {s s' : Session σ} {entries : List Entry}

theorem emptied_eq (hbuffer : it.buffer = []) : it.emptied = it := by
  unfold emptied
  rw [← hbuffer]

/-- What an iterator holds that has fetched a page is what the search has brought. -/
theorem buffer_fetch (hbuffer : it.buffer = []) (s : Session σ) :
    ((it.fetch c).run s).1.buffer = (it.fetched c s).entries := by
  rw [run_fetch, buffer_after]
  show it.buffer ++ _ = _
  rw [hbuffer]
  rfl

/-- An entry of the buffer comes before all that follow. -/
theorem take_of_buffer {e : Entry} {rest : List Entry} {n : Nat} (hbuffer : it.buffer = e :: rest)
    (h : { it with buffer := rest }.take c n s = some ((entries, it'), s')) :
    it.take c (n + 1) s = some ((e :: entries, it'), s') := by
  unfold take
  rw [next_of_buffer hbuffer]
  show (take c n { it with buffer := rest } s).bind _ = _
  rw [h]
  rfl

theorem take_of_fetch (hbuffer : it.buffer = []) (hdone : it.done = false) (n : Nat) :
    it.take c (n + 1) s = ((it.fetch c).run s).1.take c (n + 1) ((it.fetch c).run s).2 := by
  unfold take
  rw [next_of_fetch hbuffer hdone]

end Iter

namespace Iter.Drains

variable {c : Client σ} {it it' : Iter} {s s' : Session σ} {entries : List Entry}

theorem stop (h : it.next c s = some ((none, it'), s')) : it.Drains c s [] it' s' := by
  intro n hn
  cases n with
  | zero => cases hn
  | succ n =>
    unfold take
    rw [h]
    rfl

theorem pop {e : Entry} {rest : List Entry} (hbuffer : it.buffer = e :: rest)
    (h : { it with buffer := rest }.Drains c s entries it' s') :
    it.Drains c s (e :: entries) it' s' := by
  intro n hn
  cases n with
  | zero => cases hn
  | succ n => exact take_of_buffer hbuffer (h n (Nat.lt_of_succ_lt_succ hn))

/-- The entries of the buffer come first. -/
theorem give (h : it.emptied.Drains c s entries it' s') :
    it.Drains c s (it.buffer ++ entries) it' s' := by
  induction hbuffer : it.buffer generalizing it with
  | nil =>
    rw [emptied_eq hbuffer] at h
    exact h
  | cons e rest ih => exact pop hbuffer (ih h rfl)

/-- A page is fetched and given, and then the rest. -/
theorem fetch {r : Iter × Session σ} (hbuffer : it.buffer = []) (hdone : it.done = false)
    (hrun : (it.fetch c).run s = r) (h : r.1.emptied.Drains c r.2 entries it' s') :
    it.Drains c s (r.1.buffer ++ entries) it' s' := by
  intro n hn
  cases n with
  | zero => cases hn
  | succ n =>
    rw [take_of_fetch hbuffer hdone, hrun]
    exact h.give (n + 1) hn

/-- A call of an iterator that can be drained comes back. -/
theorem next_ne_none (h : it.Drains c s entries it' s') : it.next c s ≠ none := by
  intro hnone
  have htake := h (entries.length + 1) (Nat.lt_succ_self _)
  unfold take at htake
  rw [hnone] at htake
  cases htake

end Iter.Drains

/-! ## Searches of one iterator -/

/-- Searches of an iterator one after another, what each of them brings being given before the
next. -/
inductive Iter.Advances (c : Client σ) :
    Iter → Session σ → List Fetch → Iter → Session σ → Prop
  | none (it : Iter) (s : Session σ) : Advances c it s [] it s
  | more {it it' : Iter} {s s' : Session σ} {made : List Fetch} (hdone : it.done = false)
      (rest : Advances c ((it.fetch c).run s).1.emptied ((it.fetch c).run s).2 made it' s') :
      Advances c it s (it.fetched c s :: made) it' s'

/-- How many pages some searches bring. -/
def pagesIn (made : List Fetch) : Nat :=
  made.countP fun f => f.result.isOk

namespace Iter.Advances

variable {c : Client σ} {it it' : Iter} {s s' : Session σ} {made : List Fetch}

/-- An iterator that has got done has been drained of what its searches have brought. -/
theorem drains (h : Advances c it s made it' s') (hbuffer : it.buffer = [])
    (hdone : it'.done = true) : it.Drains c s (entriesOf made) it' s' := by
  induction h with
  | none it s => exact .stop (next_of_done hbuffer hdone)
  | @more it it' s s' made hnot rest ih =>
    have hdrains := Drains.fetch hbuffer hnot rfl (ih rfl hdone)
    rw [buffer_fetch hbuffer] at hdrains
    exact hdrains

theorem pagesFetched_eq (h : Advances c it s made it' s') :
    it'.pagesFetched = it.pagesFetched + pagesIn made := by
  induction h with
  | none => rfl
  | @more it it' s s' made _ rest ih =>
    rw [ih, run_fetch]
    unfold pagesIn
    rw [List.countP_cons]
    unfold after fetched
    cases ((c.searchWith it.token it.params).run s).1 with
    | error error => rfl
    | ok page =>
      show it.pagesFetched + 1 + _ = it.pagesFetched + (_ + 1)
      omega

/-- They are searches like those of calls that come back. -/
theorem searches (h : Advances c it s made it' s') :
    Searches c it.token s made it'.token s' := by
  induction h with
  | none => exact .none _ _
  | @more it it' s s' made _ rest ih =>
    have htoken : ((it.fetch c).run s).1.emptied.token =
        ((c.searchWith it.token it.params).run s).2.token := by
      rw [run_fetch]
      exact token_after _ _
    have hsession : ((it.fetch c).run s).2 =
        (it.fetched c s).reported ((c.searchWith it.token it.params).run s).2 := by
      rw [run_fetch]
    rw [htoken, hsession] at ih
    exact .more (it.fetched c s) rfl ih

end Iter.Advances

/-- Searches that have brought pages were within bounds. -/
theorem Searches.inBounds {c : Client σ} {token token' : Cancellation} {s s' : Session σ}
    {made : List Fetch} (h : Searches c token s made token' s') :
    ∀ f ∈ made, f.result.isOk = true → f.request.InBounds := by
  intro f hf hok
  obtain ⟨token₁, s₁, hresult⟩ := h.exists_run f hf
  rw [← hresult] at hok
  exact Client.inBounds_of_searchWith hok

theorem Keeps.emptied {params : Params} {calls : Nat} {made : List Fetch} {it : Iter}
    (h : Keeps params calls made it) :
    Keeps params (entriesOf made).length made it.emptied :=
  ⟨(List.drop_length).symm, h.request, fun _ => Nat.le_refl _⟩

/-- Each search asks for what follows the one before. -/
theorem Iter.Advances.asks {c : Client σ} {params : Params} {it it' : Iter} {s s' : Session σ}
    {made more : List Fetch} (h : Advances c it s more it' s')
    (hkeeps : Keeps params (entriesOf made).length made it) (hbuffer : it.buffer = []) :
    ∀ before f after, more = before ++ f :: after →
      Asks params (made ++ before).getLast? f.request := by
  induction h generalizing made with
  | none =>
    intro before f after hsplit
    cases before <;> cases hsplit
  | @more it it' s s' more hdone rest ih =>
    have hafter := ((hkeeps.withToken ((c.searchWith it.token it.params).run s).2.token).after
      hbuffer hdone (it.fetched c s)).emptied
    rw [run_fetch] at ih
    intro before f after hsplit
    cases before with
    | nil =>
      cases hsplit
      rw [List.append_nil]
      refine asks_of_nextRequest ?_
      rw [hkeeps.request, hdone]
      rfl
    | cons g before =>
      cases hsplit
      rw [List.append_cons]
      exact ih hafter rfl before f after rfl

/-! ## Progress -/

/-- The page ends no further on than where it was asked to start. -/
def Fetch.Stalls (f : Fetch) : Prop :=
  ∃ page, f.result = .ok page ∧
    page.start.toNat + page.perPage.toNat ≤ f.request.start.toNat

/-- How far some searches of an iterator come. -/
structure Progress (made : List Fetch) : Prop where
  /-- Each starts further on than the one before, exactly if no page stalls that another one
  follows. -/
  advances : (made.map fun f => f.request.start.toNat).Pairwise (· < ·) ↔
    ∀ f ∈ made.dropLast, ¬ f.Stalls
  bounded : (∀ f ∈ made.dropLast, ¬ f.Stalls) → pagesIn made ≤ 30001

theorem Asks.stalls_iff {params request : Params} {f : Fetch} (h : Asks params (some f) request) :
    f.Stalls ↔ request.start.toNat ≤ f.request.start.toNat := by
  obtain ⟨page, start, hresult, hstart, rfl⟩ := h
  constructor
  · rintro ⟨page', hresult', hle⟩
    rw [hresult] at hresult'
    cases hresult'
    rw [← hstart] at hle
    exact hle
  · intro hle
    refine ⟨page, hresult, ?_⟩
    rw [← hstart]
    exact hle

/-- Each search asks for what follows the one before it. -/
def Chained (params : Params) (made : List Fetch) : Prop :=
  ∀ before f after, made = before ++ f :: after → Asks params before.getLast? f.request

theorem Chained.asks {params : Params} {made : List Fetch} (h : Chained params made) {i : Nat}
    (hi : i + 1 < made.length) : Asks params (some made[i]) made[i + 1].request := by
  have hasks := h (made.take (i + 1)) made[i + 1] (made.drop (i + 2)) (by
    rw [List.getElem_cons_drop, List.take_append_drop])
  have hlast : (made.take (i + 1)).getLast? = some made[i] := by
    rw [← List.take_concat_get' made i (by omega), List.getLast?_concat]
  rw [hlast] at hasks
  exact hasks

theorem Chained.pairwise_iff {params : Params} {made : List Fetch} (h : Chained params made) :
    (made.map fun f => f.request.start.toNat).Pairwise (· < ·) ↔
      ∀ f ∈ made.dropLast, ¬ f.Stalls := by
  rw [← List.isChain_iff_pairwise, List.isChain_iff_getElem]
  constructor
  · intro hstarts f hf
    obtain ⟨i, hi, rfl⟩ := List.mem_iff_getElem.mp hf
    rw [List.length_dropLast] at hi
    have hlt := hstarts i (by rw [List.length_map]; omega)
    rw [List.getElem_map, List.getElem_map] at hlt
    rw [List.getElem_dropLast, (h.asks (by omega)).stalls_iff]
    exact Nat.not_le_of_lt hlt
  · intro hunstalled i hi
    rw [List.length_map] at hi
    have hi' : i < made.dropLast.length := by
      rw [List.length_dropLast]
      omega
    have hunstalled' := hunstalled _ (List.getElem_mem hi')
    rw [List.getElem_dropLast, (h.asks hi).stalls_iff] at hunstalled'
    rw [List.getElem_map, List.getElem_map]
    exact Nat.lt_of_not_le hunstalled'

/-- Pages that start at different places within bounds are 30001 at most. -/
theorem pagesIn_le {made : List Fetch}
    (hbounds : ∀ f ∈ made, f.result.isOk = true → f.request.InBounds)
    (hstarts : (made.map fun f => f.request.start.toNat).Pairwise (· < ·)) :
    pagesIn made ≤ 30001 := by
  let starts := (made.filter fun f => f.result.isOk).map fun f => f.request.start.toNat
  have hlength : starts.length = pagesIn made := by
    rw [List.length_map, ← List.countP_eq_length_filter]
    rfl
  have hnodup : starts.Nodup :=
    (hstarts.sublist (List.filter_sublist.map _)).imp Nat.ne_of_lt
  have hsubset : starts.toFinset ⊆ Finset.range 30001 := by
    intro start hstart
    obtain ⟨f, hf, rfl⟩ := List.mem_map.mp (List.mem_toFinset.mp hstart)
    obtain ⟨hmade, hok⟩ := List.mem_filter.mp hf
    exact Finset.mem_range.mpr (Nat.lt_succ_of_le (hbounds f hmade hok).2)
  have hcard := Finset.card_le_card hsubset
  rw [List.toFinset_card_of_nodup hnodup, Finset.card_range, hlength] at hcard
  exact hcard

theorem Chained.progress {params : Params} {made : List Fetch} (h : Chained params made)
    (hbounds : ∀ f ∈ made, f.result.isOk = true → f.request.InBounds) : Progress made :=
  ⟨h.pairwise_iff, fun hunstalled => pagesIn_le hbounds (h.pairwise_iff.mpr hunstalled)⟩

/-! ## How far an iterator goes on -/

namespace Iter

variable {c : Client σ} {it : Iter} {s : Session σ}

/-- After a search an iterator that is not done asks for what follows. -/
theorem asks_after {f : Fetch} (hmore : (it.after f).done = false) (hdone : it.done = false) :
    Asks it.params (some f) (it.after f).params := by
  have hrequest : nextRequest it.params [f] = some (it.after f).params := by
    show f.next? it.params = _
    rw [request_after hdone (fun _ => rfl) f, hmore]
    rfl
  exact asks_of_nextRequest hrequest

theorem asks_fetch (hdone : it.done = false) (hmore : ((it.fetch c).run s).1.done = false) :
    Asks it.params (some (it.fetched c s)) ((it.fetch c).run s).1.params := by
  rw [run_fetch] at hmore ⊢
  have hasks := asks_after hmore hdone
  exact hasks

/-- An iterator goes on until it is done or a page stalls it. -/
theorem exists_advances (c : Client σ) (it : Iter) (s : Session σ) :
    ∃ made it' s', it.Advances c s made it' s' ∧ (∀ f ∈ made.dropLast, ¬ f.Stalls) ∧
      (it'.done = false → ∃ f, made.getLast? = some f ∧ f.Stalls) := by
  -- on how far the start may still move
  induction hleft : 30001 - it.params.start.toNat using Nat.strongRecOn generalizing it s with
  | _ left ih =>
    cases hdone : it.done with
    | true =>
      refine ⟨[], it, s, .none it s, fun f hf => absurd hf List.not_mem_nil, fun hnot => ?_⟩
      rw [hdone] at hnot
      cases hnot
    | false =>
      have hone : it.Advances c s [it.fetched c s] ((it.fetch c).run s).1.emptied
          ((it.fetch c).run s).2 := .more hdone (.none _ _)
      cases hmore : ((it.fetch c).run s).1.done with
      | true =>
        refine ⟨_, _, _, hone, fun f hf => absurd hf List.not_mem_nil, fun hnot => ?_⟩
        have hdone' : ((it.fetch c).run s).1.done = false := hnot
        rw [hmore] at hdone'
        cases hdone'
      | false =>
        have hasks := asks_fetch hdone hmore
        by_cases hstalls : (it.fetched c s).Stalls
        · exact ⟨_, _, _, hone, fun f hf => absurd hf List.not_mem_nil, fun _ => ⟨_, rfl, hstalls⟩⟩
        · have hfurther : it.params.start.toNat < ((it.fetch c).run s).1.params.start.toNat :=
            Nat.lt_of_not_le fun hle => hstalls (hasks.stalls_iff.mpr hle)
          have hbounds : it.params.start.toNat ≤ 30000 := by
            obtain ⟨page, start, hresult, -, -⟩ := hasks
            refine (hone.searches.inBounds _ List.mem_cons_self ?_).2
            rw [hresult]
            rfl
          have hleft' : 30001 - ((it.fetch c).run s).1.emptied.params.start.toNat < left := by
            show 30001 - ((it.fetch c).run s).1.params.start.toNat < left
            omega
          obtain ⟨made, it', s', hadvances, hunstalled, hlast⟩ :=
            ih _ hleft' ((it.fetch c).run s).1.emptied ((it.fetch c).run s).2 rfl
          refine ⟨it.fetched c s :: made, it', s', .more hdone hadvances, ?_, ?_⟩
          · intro f hf
            cases made with
            | nil => cases hf
            | cons g made =>
              rcases List.mem_cons.mp hf with rfl | hf
              · exact hstalls
              · exact hunstalled f hf
          · intro hnot
            obtain ⟨f, hf, hstalls'⟩ := hlast hnot
            refine ⟨f, ?_, hstalls'⟩
            rw [List.getLast?_cons, hf]
            rfl

theorem Advances.chained {it' : Iter} {s' : Session σ} {made : List Fetch}
    (h : it.Advances c s made it' s') (hbuffer : it.buffer = []) : Chained it.params made := by
  cases h with
  | none =>
    intro before f after hsplit
    cases before <;> cases hsplit
  | more hdone rest =>
    have hkeeps : Keeps it.params (entriesOf []).length [] it := by
      refine ⟨hbuffer, ?_, fun _ => Nat.le_refl 0⟩
      rw [hdone]
      rfl
    exact (Advances.more hdone rest).asks hkeeps hbuffer

/-- How an iterator goes on from a session that nobody else changes. -/
structure Course (c : Client σ) (it : Iter) (s : Session σ) (made : List Fetch) (it' : Iter)
    (s' : Session σ) : Prop where
  /-- It gives what it still has, and then makes these searches. -/
  advances : it.emptied.Advances c s made it' s'
  progress : Progress made
  unstalled : ∀ f ∈ made.dropLast, ¬ f.Stalls
  pages : it'.pagesFetched = it.pagesFetched + pagesIn made
  /-- If it gets done, it gives what they bring and then no more. -/
  drains : it'.done = true →
    it.Drains c s (it.buffer ++ entriesOf made) it' s' ∧ it.next c s ≠ none
  /-- If it does not, a page has stalled it. -/
  stalls : it'.done = false → ∃ f, made.getLast? = some f ∧ f.Stalls

theorem exists_course (c : Client σ) (it : Iter) (s : Session σ) :
    ∃ made it' s', it.Course c s made it' s' := by
  obtain ⟨made, it', s', hadvances, hunstalled, hstalls⟩ := exists_advances c it.emptied s
  have hprogress : Progress made := (hadvances.chained rfl).progress hadvances.searches.inBounds
  refine ⟨made, it', s', hadvances, hprogress, hunstalled, hadvances.pagesFetched_eq, ?_, hstalls⟩
  intro hdone
  have hdrains := (hadvances.drains rfl hdone).give
  exact ⟨hdrains, hdrains.next_ne_none⟩

end Iter

/-- **Progress.** The searches of any calls of an iterator start further and further on exactly as
long as no page that another one follows stalls it, and there are 30001 pages at most then. An
iterator that is left alone goes on until it is done, its calls coming back, or until a page stalls
it. -/
theorem iteration_progresses (c : Client σ) (params : Params) (token : Cancellation) :
    (∀ calls it, Calls c (Iter.start params token) calls it →
      ∃ record, record.map Record.toCall = calls ∧ (∀ r ∈ record, r.IsMade c) ∧
        Accounts params record ∧ Progress (fetched record)) ∧
    ∀ (it : Iter) (s : Session σ), ∃ made it' s', it.Course c s made it' s' := by
  refine ⟨fun calls it hcalls => ?_, Iter.exists_course c⟩
  obtain ⟨record, hmap, hmade, haccounts⟩ := exists_record hcalls
  have hchained : Chained params (fetched record) := haccounts.requests
  refine ⟨record, hmap, hmade, haccounts, hchained.progress fun f hf hok => ?_⟩
  obtain ⟨r, hr, hf⟩ := List.mem_flatMap.mp hf
  exact (hmade r hr).inBounds f hf hok

/-! ## Clients that always find the same page -/

/-- A client whose server answers every request with the same page. -/
def repeating (page : Page) : Client Unit where
  engine :=
    ⟨⟨fun _ _ _ => .zero, fun _ _ s => (.ok ⟨200, ""⟩, s), fun _ _ s => s⟩, fun _ => .ok page,
      .get, none, fun _ => 0⟩
  interceptors := []

/-- A session in which nothing has happened. -/
def idle : Session Unit where
  server := ()
  timing := .together
  clock := 0
  timer := 0
  limiter := .ofInterval .zero
  token := .fresh
  caches _ := .empty .zero 1
  trace := []

/-- The only page of a search, with one entry. -/
def onlyPage : Page :=
  { Page.default with entries := [.default], perPage := 1, total := 1 }

/-- The first two of a hundred, none of which is there. -/
def emptyPage : Page :=
  { Page.default with perPage := 2, total := 100 }

theorem run_fetch_repeating (page : Page) {it : Iter} (htoken : it.token = .fresh)
    (hvalid : it.params.check = .ok ()) (s : Session Unit) :
    ∃ s', (it.fetch (repeating page)).run s =
      (it.afterPage { page with params := it.params }, s') := by
  have hexchange : ((repeating page).engine.transport.exchange (repeating page).engine.method
      it.params.encode s.server).1 = .ok ⟨200, ""⟩ := rfl
  obtain ⟨s', hrun, -⟩ := Iter.run_fetch_of_page htoken hvalid hexchange rfl rfl
  exact ⟨s', hrun⟩

/-- The iterator when the entry of the only page has been given. -/
def afterOnly : Iter :=
  ⟨.default, .fresh, [], 1, true, none⟩

/-- The first call of an iteration with one page is answered with its entry. -/
theorem iteration_progresses_onlyPage :
    ∃ s', Calls (repeating onlyPage) (Iter.start .default .fresh)
        [⟨.fresh, idle, some .default, .fresh, s'⟩] afterOnly ∧
      (∃ record, record.map Record.toCall = [⟨.fresh, idle, some .default, .fresh, s'⟩] ∧
        (∀ r ∈ record, r.IsMade (repeating onlyPage)) ∧ Accounts .default record ∧
        Progress (fetched record)) ∧
      ∃ made it₁ s₁, afterOnly.Course (repeating onlyPage) s' made it₁ s₁ := by
  have htoken : (Iter.start .default .fresh).token = .fresh := rfl
  obtain ⟨s', hfetch⟩ := run_fetch_repeating onlyPage htoken rfl idle
  have hnext : (Iter.start .default .fresh).next (repeating onlyPage) idle =
      some ((some .default, afterOnly), s') := by
    rw [Iter.next_of_fetch rfl rfl, hfetch]
    exact Iter.next_of_buffer rfl
  have hcalls : Calls (repeating onlyPage) (Iter.start .default .fresh)
      [⟨.fresh, idle, some .default, .fresh, s'⟩] afterOnly := .more _ hnext rfl (.none _)
  obtain ⟨hprogress, hcourse⟩ := iteration_progresses (repeating onlyPage) .default .fresh
  exact ⟨s', hcalls, hprogress _ _ hcalls, hcourse afterOnly s'⟩

/-- An iterator that goes on over empty pages. -/
structure Stuck (it : Iter) : Prop where
  buffer : it.buffer = []
  done : it.done = false
  token : it.token = .fresh
  valid : it.params.check = .ok ()

theorem stuck_start : Stuck (Iter.start .default .fresh) :=
  ⟨rfl, rfl, rfl, rfl⟩

namespace Stuck

variable {it : Iter}

theorem emptied (h : Stuck it) : Stuck it.emptied :=
  ⟨rfl, h.done, h.token, h.valid⟩

/-- The page brings nothing, and it says again that what follows starts at two. -/
theorem fetch (h : Stuck it) (s : Session Unit) :
    Stuck ((it.fetch (repeating emptyPage)).run s).1 ∧
      ((it.fetch (repeating emptyPage)).run s).1.params.start = 2 := by
  obtain ⟨s', hrun⟩ := run_fetch_repeating emptyPage h.token h.valid s
  have hvalid : { it.params with start := 2 }.check = .ok () :=
    Params.check_eq_ok_iff.mpr ⟨(Params.check_eq_ok_iff.mp h.valid).1, Nat.le_of_ble_eq_true rfl⟩
  have hbuffer : it.buffer ++ [] = [] := (List.append_nil _).trans h.buffer
  have hdone : (it.done || false) = false := (Bool.or_false _).trans h.done
  rw [hrun]
  exact ⟨⟨hbuffer, hdone, h.token, hvalid⟩, rfl⟩

/-- It makes one search after another and never comes back. -/
theorem next_eq_none (h : Stuck it) (s : Session Unit) :
    it.next (repeating emptyPage) s = none := by
  cases hrun : it.next (repeating emptyPage) s with
  | none => rfl
  | some r =>
    refine absurd h (Iter.next.partial_correctness (repeating emptyPage)
      (fun it _ _ => ¬ Stuck it) ?_ it s r hrun)
    intro next ih it s r hrun hstuck
    rw [hstuck.buffer, hstuck.done] at hrun
    exact ih _ _ r hrun (hstuck.fetch s).1

/-- Every search but the first starts at two. -/
theorem exists_advances (h : Stuck it) (s : Session Unit) (n : Nat) :
    ∃ made it' s', it.Advances (repeating emptyPage) s made it' s' ∧
      (made.map fun f => f.request.start.toNat) =
        it.params.start.toNat :: List.replicate n (2 : UInt64).toNat := by
  induction n generalizing it s with
  | zero => exact ⟨_, _, _, .more h.done (.none _ _), rfl⟩
  | succ n ih =>
    obtain ⟨hstuck, htwo⟩ := h.fetch s
    obtain ⟨made, it', s', hadvances, hstarts⟩ :=
      ih hstuck.emptied ((it.fetch (repeating emptyPage)).run s).2
    refine ⟨_, it', s', .more h.done hadvances, ?_⟩
    rw [List.map_cons, hstarts, List.replicate_succ, ← htwo]
    rfl

end Stuck

/-- Over empty pages the searches do not start further and further on, and the first call never
comes back. -/
theorem iteration_not_progresses_emptyPage :
    (∃ made it s, (Iter.start .default .fresh).Advances (repeating emptyPage) idle made it s ∧
      ¬ (made.map fun f => f.request.start.toNat).Pairwise (· < ·)) ∧
    (Iter.start .default .fresh).next (repeating emptyPage) idle = none := by
  obtain ⟨made, it, s, hadvances, hstarts⟩ := stuck_start.exists_advances idle 2
  have hrepeated : ¬ [0, 2, 2].Pairwise (· < ·) := by decide
  refine ⟨⟨made, it, s, hadvances, ?_⟩, stuck_start.next_eq_none idle⟩
  rw [hstarts]
  exact hrepeated

end PaperSearch
