import Mathlib.Data.List.Forall2
import PaperSearch.Proofs.Client.Paging
import PaperSearch.Proofs.Client.Sharing

/-!
# A cache that nobody notices

The outcome of an exchange may depend on the request alone (`Engine.IsStateless`). Then a search has
one result and takes so many exchanges, whatever came before it (`Engine.Answers`), and a page in a
cache is as good as a new one.

`Cache.IsFaithful` is the invariant: every page that is kept is what the engine answers to a search
with its key. `cached_search` is one search of a client with a cache, beside the same search of the
client without it, and `cache_transparent` is any number of them, by induction on the searches.
-/

namespace PaperSearch

variable {σ : Type}

/-! ## Servers without memory -/

namespace Engine

variable {e : Engine σ}

/-- The outcome of an exchange depends on the request alone. -/
def IsStateless (e : Engine σ) : Prop :=
  ∀ encoded server server', (e.transport.exchange e.method encoded server).1 =
    (e.transport.exchange e.method encoded server').1

section Outcomes

variable {encoded : String} {s s' t t' : Session σ} {number n m : Nat}
  {result result' : Result Response}

/-- Attempts that meet with the same outcomes as others come no further than these. -/
theorem Reaches.not_lt (hlast : Ends e encoded number s.server n result ∨
      Breaks e encoded number s.server n result) (h' : Reaches e encoded number t m t')
    (houtcome : ∀ i, e.outcomeAfter encoded s.server i = e.outcomeAfter encoded t.server i) :
    ¬ n < m := by
  intro hlt
  have hwithin := h'.within
  have hretried := h'.retried n hlt
  have hwaited := h'.waited n hlt
  rw [← houtcome] at hretried
  rw [wait?_eq_none hlast (by omega) hretried] at hwaited
  cases hwaited

theorem Ends.eq_of_outcomes (h : Ends e encoded number s.server n result)
    (h' : Ends e encoded number t.server n result')
    (houtcome : ∀ i, e.outcomeAfter encoded s.server i = e.outcomeAfter encoded t.server i) :
    result = result' := by
  obtain ⟨last, hlast, hresult⟩ := h.result
  obtain ⟨last', hlast', hresult'⟩ := h'.result
  obtain rfl : last = last' := UInt32.toNat_inj.mp (hlast.trans hlast'.symm)
  rw [hresult, hresult', houtcome]

/-- What is decided is not broken off. -/
theorem Ends.not_breaks (h : Ends e encoded number s.server n result)
    (houtcome : ∀ i, e.outcomeAfter encoded s.server i = e.outcomeAfter encoded t.server i) :
    ¬ Breaks e encoded number t.server n result' := by
  intro hbreaks
  have hdecided := h.decided hbreaks.undecided
  rw [houtcome, hbreaks.retryable] at hdecided
  cases hdecided

/-- Attempts that meet with the same outcomes end in the same way. -/
theorem Reaches.eq_of_outcomes (h : Reaches e encoded number s n s')
    (hlast : Ends e encoded number s.server n result ∨ Breaks e encoded number s.server n result)
    (h' : Reaches e encoded number t m t')
    (hlast' : Ends e encoded number t.server m result' ∨ Breaks e encoded number t.server m result')
    (houtcome : ∀ i, e.outcomeAfter encoded s.server i = e.outcomeAfter encoded t.server i) :
    n = m ∧ result = result' := by
  obtain rfl : n = m := Nat.le_antisymm
    (Nat.not_lt.mp (Reaches.not_lt hlast' h fun i => (houtcome i).symm))
    (Nat.not_lt.mp (Reaches.not_lt hlast h' houtcome))
  refine ⟨rfl, ?_⟩
  rcases hlast with hends | hbreaks
  · rcases hlast' with hends' | hbreaks'
    · exact hends.eq_of_outcomes hends' houtcome
    · exact absurd hbreaks' (hends.not_breaks houtcome)
  · rcases hlast' with hends' | hbreaks'
    · exact absurd hbreaks (hends'.not_breaks fun i => (houtcome i).symm)
    · exact hbreaks.result.trans hbreaks'.result.symm

end Outcomes

/-- A search with these parameters has this result and takes so many exchanges, whatever came before
it. -/
def Answers (e : Engine σ) (params : Params) (result : Result Page) (n : Nat) : Prop :=
  ∀ s : Session σ, s.token = .fresh → ∃ s' counted, (e.execute params).run s = (result, s') ∧
    s.Continues s' (List.replicate n (e.method, params.encode)) counted

theorem exists_answers (hstateless : e.IsStateless) (params : Params) (s : Session σ) :
    ∃ result n, e.Answers params result n := by
  cases hcheck : params.check with
  | error cause =>
    exact ⟨.error (.invalid cause), 0, fun t _ =>
      ⟨t, [], run_execute_of_error hcheck t, .of_eq rfl rfl rfl⟩⟩
  | ok _ =>
    have hfresh : (s.under .fresh).token = .fresh := rfl
    obtain ⟨n, hreaches, hlast⟩ := e.exists_reaches params.encode 1 hfresh e.limit_pos
    refine ⟨e.decoded params ((e.attempts params.encode 1).run (s.under .fresh)).1, n + 1,
      fun t ht => ?_⟩
    obtain ⟨m, hreaches', hlast'⟩ := e.exists_reaches params.encode 1 ht e.limit_pos
    obtain ⟨rfl, hresult⟩ := hreaches.eq_of_outcomes hlast hreaches' hlast' fun i =>
      hstateless _ _ _
    refine ⟨((e.attempts params.encode 1).run t).2, _, ?_, hreaches'.continues⟩
    rw [run_execute, run_rawSearch hcheck, hresult]

theorem decoded_of_ok {params : Params} {result : Result Response} {page : Page}
    (h : e.decoded params result = .ok page) (params' : Params) :
    e.decoded params' result = .ok { page with params := params' } := by
  unfold decoded at h ⊢
  split at h
  · cases h
  · split at h
    · cases h
    · cases h
      rfl

theorem Answers.params_eq {params : Params} {page : Page} {n : Nat}
    (h : e.Answers params (.ok page) n) (s : Session σ) : page.params = params := by
  obtain ⟨s', -, hrun, -⟩ := h (s.under .fresh) rfl
  exact params_of_execute hrun

/-- A page takes an exchange at least. -/
theorem Answers.pos {params : Params} {page : Page} {n : Nat}
    (h : e.Answers params (.ok page) n) (s : Session σ) : 0 < n := by
  have hfresh : (s.under .fresh).token = .fresh := rfl
  obtain ⟨s', counted, hrun, hgoes⟩ := h (s.under .fresh) hfresh
  cases hcheck : params.check with
  | error cause =>
    rw [run_execute_of_error hcheck] at hrun
    cases hrun
  | ok _ =>
    obtain ⟨m, hstops, hsends⟩ := e.rawSearch_sends params (s.under .fresh) hcheck hfresh
    have hexchanges := hsends.exchanges
    rw [run_execute] at hrun
    rw [congrArg Prod.snd hrun, hgoes.exchanges] at hexchanges
    have hlength := congrArg List.length (List.append_cancel_left hexchanges)
    rw [List.length_replicate, List.length_replicate] at hlength
    rw [hlength]
    exact hstops.pos

/-- The page of a search is that of every other one with the same request, but for the parameters
that it carries. -/
theorem Answers.of_encode_eq {params params' : Params} {page : Page} {result : Result Page}
    {n m : Nat} (h : e.Answers params (.ok page) n) (h' : e.Answers params' result m)
    (hvalid : params.check = .ok ()) (hvalid' : params'.check = .ok ())
    (hencode : params.encode = params'.encode) (s : Session σ) :
    result = .ok { page with params := params' } := by
  have hfresh : (s.under .fresh).token = .fresh := rfl
  obtain ⟨s', -, hrun, -⟩ := h (s.under .fresh) hfresh
  obtain ⟨s'', -, hrun', -⟩ := h' (s.under .fresh) hfresh
  rw [run_execute, run_rawSearch hvalid] at hrun
  rw [run_execute, run_rawSearch hvalid', ← hencode] at hrun'
  have hpage := decoded_of_ok (congrArg Prod.fst hrun) params'
  exact (congrArg Prod.fst hrun').symm.trans hpage

end Engine

/-! ## Searches one after another -/

/-- The same error, or a page that is the same but for the parameters that it carries, and these
have the request of the search. -/
inductive SameResult (params : Params) : Result Page → Result Page → Prop
  | error (e : SearchError) : SameResult params (.error e) (.error e)
  | page {page : Page} (h : page.params.encode = params.encode) :
      SameResult params (.ok page) (.ok { page with params })

theorem SameResult.refl {params : Params} {result : Result Page}
    (h : ∀ page, result = .ok page → page.params = params) : SameResult params result result := by
  cases result with
  | error e => exact .error e
  | ok page =>
    have hparams := h page rfl
    have hsame : SameResult params (.ok page) (.ok { page with params }) :=
      .page (congrArg Params.encode hparams)
    rw [← hparams] at hsame ⊢
    exact hsame

/-- Anything may have happened but that something was sent or a cache was touched. -/
structure Session.Rests (s s' : Session σ) : Prop where
  caches : s'.caches = s.caches
  exchanges : Happening.exchanges s'.trace = Happening.exchanges s.trace

/-- A search that was made, and the sessions before and after it. -/
structure Made (σ : Type) where
  params : Params
  before : Session σ
  result : Result Page
  after : Session σ

/-- A client makes some searches one after another. -/
inductive Client.Searched (c : Client σ) : Session σ → List (Made σ) → Session σ → Prop
  | none {s s' : Session σ} (hrests : s.Rests s') : Searched c s [] s'
  | more {s s₁ s₂ s' : Session σ} {params : Params} {result : Result Page}
      {calls : List (Made σ)} (hrests : s.Rests s₁)
      (h : (c.search params).run s₁ = (result, s₂)) (rest : Searched c s₂ calls s') :
      Searched c s (⟨params, s₁, result, s₂⟩ :: calls) s'

/-- Whatever is searched for, a client makes the searches. -/
theorem Client.exists_searched (c : Client σ) (asked : List Params) (s : Session σ) :
    ∃ calls s', c.Searched s calls s' ∧ calls.map Made.params = asked := by
  induction asked generalizing s with
  | nil => exact ⟨[], s, .none ⟨rfl, rfl⟩, rfl⟩
  | cons params asked ih =>
    obtain ⟨calls, s', hrest, hcalls⟩ := ih ((c.search params).run s).2
    exact ⟨_, s', .more ⟨rfl, rfl⟩ rfl hrest, congrArg (params :: ·) hcalls⟩

/-- A page has come from the server at a time from which it cannot be kept. -/
structure Made.Overflows (made : Made σ) (place : Nat) (plain : Result Page) : Prop where
  sent : Happening.exchanges made.after.trace ≠ Happening.exchanges made.before.trace
  page : plain.isOk = true
  full : (made.after.caches place).canStore made.after.clock = false

/-- What becomes of a search with a cache, beside the same search without one: the same, unless a
page has come that cannot be kept; then it breaks off. -/
structure Made.Repeats (made : Made σ) (place : Nat) (plain : Result Page) : Prop where
  same : ¬ made.Overflows place plain → SameResult made.params made.result plain
  overflow : made.Overflows place plain → made.result = .error .overflow

/-! ## The client without the cache -/

section Searches

variable {e : Engine σ} {before after : List (Interceptor σ)}
  (hbefore : ∀ i ∈ before, i.Watches) (hafter : ∀ i ∈ after, i.Watches)
  {params : Params} {s s' : Session σ} {result : Result Page} {n : Nat}

/-- A client whose interceptors only watch gives what the engine answers. -/
theorem search_plain {c : Client σ} (hwatch : ∀ i ∈ c.interceptors, i.Watches)
    (hanswers : c.engine.Answers params result n) : ∃ s', (c.search params).run s = (result, s') ∧
      s.Adds s' (List.replicate n (c.engine.method, params.encode)) := by
  obtain ⟨seen, more, hseen, hmore, hrun⟩ := Client.run_search_of_watchers hwatch params s
  obtain ⟨s₁, counted, hexecute, hgoes⟩ := hanswers ((s.under .fresh).seeing seen) rfl
  rw [hexecute] at hrun
  refine ⟨_, hrun, ?_⟩
  have hall := (((s.under .fresh).continues_seeing seen).trans hgoes).trans
    (s₁.continues_seeing more)
  rw [hseen, hmore, List.nil_append, List.append_nil] at hall
  exact hall.exchanges

/-! ## The client with the cache -/

/-- Every page that is kept is what the engine answers to one of these searches with its key. -/
def Cache.IsFaithful (e : Engine σ) (asked : List Params) (c : Cache) : Prop :=
  ∀ p ∈ c.pages, ∃ params ∈ asked, params.check = .ok () ∧ params.cacheKey = p.key ∧
    ∃ n, e.Answers params (.ok p.page) n

theorem Cache.IsFaithful.sublist {asked : List Params} {c c' : Cache} (h : c.IsFaithful e asked)
    (hpages : c'.pages.Sublist c.pages) : c'.IsFaithful e asked :=
  fun p hp => h p (hpages.subset hp)

theorem Cache.IsFaithful.store {asked : List Params} {c : Cache} (h : c.IsFaithful e asked)
    (hparams : params ∈ asked) (hvalid : params.check = .ok ()) {page : Page}
    (hanswers : e.Answers params (.ok page) n) (now : Nat) :
    (c.store params.cacheKey page now).IsFaithful e asked := by
  rw [Cache.store_eq]
  intro p hp
  rcases List.mem_append.mp hp with hp | hp
  · exact h p ((c.room_sublist params.cacheKey now).subset hp)
  · rw [List.mem_singleton.mp hp]
    exact ⟨params, hparams, hvalid, rfl, n, hanswers⟩

/-- A client with a cache among interceptors that only watch. -/
def Client.withCache (e : Engine σ) (before : List (Interceptor σ)) (place : Nat)
    (after : List (Interceptor σ)) : Client σ :=
  ⟨e, before ++ caching place :: after⟩

include hbefore in
/-- A search with valid parameters comes to the interceptor that caches. -/
theorem run_search_withCache (place : Nat) (hvalid : params.check = .ok ()) (s : Session σ) :
    ∃ seen more : List Happening, Happening.exchanges seen = [] ∧ Happening.exchanges more = [] ∧
      ((Client.withCache e before place after).search params).run s =
        (((caching place params (Next.through e after)).run ((s.under .fresh).seeing seen)).1,
          ((caching place params (Next.through e after)).run
            ((s.under .fresh).seeing seen)).2.seeing more) := by
  obtain ⟨seen, more, hseen, hmore, hrun⟩ :=
    run_through_watchers e hbefore (caching place :: after) params (s.under .fresh)
  refine ⟨seen, more, hseen, hmore, ?_⟩
  exact (Client.run_searchWith_of_ok hvalid .fresh s).trans hrun

include hafter in
/-- The way behind the cache gives what the engine answers. -/
theorem run_behind (hanswers : e.Answers params result n) (hfresh : s.token = .fresh) :
    ∃ s' counted, ((Next.through e after).run params).run s = (result, s') ∧
      s.Continues s' (List.replicate n (e.method, params.encode)) counted := by
  obtain ⟨seen, more, hseen, hmore, hrun⟩ := run_through_watchers e hafter [] params s
  rw [List.append_nil] at hrun
  obtain ⟨s₁, counted, hexecute, hgoes⟩ := hanswers (s.seeing seen) hfresh
  have hinner : ((Next.through e []).run params).run (s.seeing seen) = (result, s₁) := hexecute
  rw [hinner] at hrun
  have hall := ((s.continues_seeing seen).trans hgoes).trans (s₁.continues_seeing more)
  rw [hseen, hmore, List.nil_append, List.append_nil] at hall
  exact ⟨_, _, hrun, hall⟩

/-- What a search of a client with a cache comes to, beside what the engine answers. -/
structure Cached (e : Engine σ) (asked : List Params) (place : Nat) (params : Params)
    (plain : Result Page) (n : Nat) (s : Session σ) (given : Result Page) (s' : Session σ) :
    Prop where
  repeats : Made.Repeats ⟨params, s, given, s'⟩ place plain
  /-- Nothing is sent, or what the engine sends. -/
  sent : ∃ sent, s.Adds s' sent ∧ sent.Sublist (List.replicate n (e.method, params.encode))
  faithful : (s'.caches place).IsFaithful e asked

namespace Made.Repeats

variable {made : Made σ} {place : Nat} {plain : Result Page}

theorem of_same (hnone : ¬ made.Overflows place plain)
    (h : SameResult made.params made.result plain) : made.Repeats place plain :=
  ⟨fun _ => h, fun hoverflows => absurd hoverflows hnone⟩

theorem of_overflows (hoverflows : made.Overflows place plain)
    (h : made.result = .error .overflow) : made.Repeats place plain :=
  ⟨fun hnone => absurd hoverflows hnone, fun _ => h⟩

end Made.Repeats

/-- A page comes back to a faithful cache. -/
theorem cached_keepPage {asked : List Params} {place : Nat} {page : Page} {s₁ : Session σ}
    (hfaithful : (s₁.caches place).IsFaithful e asked) (hparams : params ∈ asked)
    (hvalid : params.check = .ok ()) (hanswers : e.Answers params (.ok page) n)
    (hsent : s.Adds s₁ (List.replicate n (e.method, params.encode))) :
    Cached e asked place params (.ok page) n s
      ((keepPage place params.cacheKey (.ok page)).run s₁).1
      ((keepPage place params.cacheKey (.ok page)).run s₁).2 := by
  have hsame : SameResult params (.ok page) (.ok page) :=
    .refl fun page' hpage => by
      cases hpage
      exact hanswers.params_eq s
  have hmore : Happening.exchanges s₁.trace ≠ Happening.exchanges s.trace := by
    rw [hsent]
    intro hnone
    have hlength := congrArg List.length (List.append_right_eq_self.mp hnone)
    rw [List.length_replicate] at hlength
    exact Nat.ne_of_gt (hanswers.pos s) hlength
  rcases hrun : (keepPage place params.cacheKey (.ok page)).run s₁ with ⟨given, s'⟩
  have hquiet : Happening.exchanges s'.trace = Happening.exchanges s₁.trace :=
    (Sharing.adds_of_run_keepPage hrun).trans (List.append_nil _)
  cases hcan : (s₁.caches place).canStore s₁.clock with
  | true =>
    rw [run_keepPage_ok hcan] at hrun
    obtain ⟨rfl, rfl⟩ := Prod.mk.inj hrun
    refine ⟨.of_same (fun hoverflows => ?_) hsame, ⟨_, hsent, .refl _⟩, ?_⟩
    · have hfull : ((s₁.setCache place _).caches place).canStore s₁.clock = false :=
        hoverflows.full
      rw [Session.caches_setCache, Cache.canStore_store, hcan] at hfull
      cases hfull
    · rw [Session.caches_setCache]
      exact hfaithful.store hparams hvalid hanswers _
  | false =>
    rw [run_keepPage_overflow hcan] at hrun
    obtain ⟨rfl, rfl⟩ := Prod.mk.inj hrun
    have hcaches : ((s₁.setCache place ((s₁.caches place).makeRoom s₁.clock)).see
        .overflow).caches place = (s₁.caches place).makeRoom s₁.clock :=
      Session.caches_setCache ..
    have hfull : ((s₁.caches place).makeRoom s₁.clock).canStore s₁.clock = false :=
      (Cache.canStore_makeRoom ..).trans hcan
    rw [← hcaches] at hfull
    refine ⟨.of_overflows ⟨?_, rfl, hfull⟩ rfl, ⟨_, hquiet.trans hsent, .refl _⟩, ?_⟩
    · exact fun heq => hmore (hquiet.symm.trans heq)
    · rw [hcaches]
      exact hfaithful.sublist (Cache.makeRoom_pages_sublist _ _)

/-- A search that comes to a faithful cache. -/
theorem cached_caching {asked : List Params} {place : Nat}
    (hfaithful : (s.caches place).IsFaithful e asked)
    (hdigests : ∀ q ∈ asked, q.check = .ok () → q.cacheKey = params.cacheKey →
      q.encode = params.encode)
    (hparams : params ∈ asked) (hvalid : params.check = .ok ()) (hfresh : s.token = .fresh)
    (hafter : ∀ i ∈ after, i.Watches) (hanswers : e.Answers params result n) :
    Cached e asked place params result n s
      ((caching place params (Next.through e after)).run s).1
      ((caching place params (Next.through e after)).run s).2 := by
  obtain ⟨pages, hpages, hsublist⟩ := (s.caches place).lookup_eq params.cacheKey s.clock
  have hkept : ((s.caches place).lookup params.cacheKey s.clock).2.IsFaithful e asked := by
    rw [hpages]
    exact hfaithful.sublist hsublist
  rw [← Decider.interceptor_caching]
  have hdecides := Decider.run_caching place (Next.through e after).remaining params s
  rcases hlookup : (s.caches place).lookup params.cacheKey s.clock with ⟨found, c⟩
  rw [hlookup] at hdecides hkept
  cases found with
  | some page =>
    -- the page was brought by another search with the same request
    obtain ⟨p, hp, hkey, rfl, -⟩ :=
      Cache.exists_of_lookup (congrArg Prod.fst hlookup)
    obtain ⟨q, hq, hvalid', hkey', m, hanswers'⟩ := hfaithful p hp
    have hencode := hdigests q hq hvalid' (hkey'.trans hkey)
    have hcarries := hanswers'.params_eq s
    rw [Decider.run_interceptor_of_answer _ hdecides]
    have hnothing := Happening.exchanges_append s.trace
      [.event ⟨.debug, "Cache hit for query: " ++ params.query, []⟩]
    refine ⟨.of_same (fun hoverflows => ?_) ?_, ⟨[], hnothing, List.nil_sublist _⟩, ?_⟩
    · exact hoverflows.sent (hnothing.trans (List.append_nil _))
    · rw [hanswers'.of_encode_eq hanswers hvalid' hvalid hencode s]
      exact .page (hcarries ▸ hencode)
    · show ((s.setCache place c).caches place).IsFaithful e asked
      rw [Session.caches_setCache]
      exact hkept
  | none =>
    obtain ⟨s₁, counted, hrun, hgoes⟩ := run_behind hafter hanswers (s := s.setCache place c) hfresh
    have hcaches : (s₁.caches place).IsFaithful e asked := by
      rw [hgoes.caches, Session.caches_setCache]
      exact hkept
    rw [Decider.run_interceptor_of_pass _ hdecides, hrun]
    cases result with
    | error error =>
      exact ⟨.of_same (fun hoverflows => nomatch hoverflows.page) (.error error),
        ⟨_, hgoes.exchanges, .refl _⟩, hcaches⟩
    | ok page => exact cached_keepPage hcaches hparams hvalid hanswers hgoes.exchanges

/-- A search of a client whose cache is faithful. -/
theorem cached_search {asked : List Params} {place : Nat}
    (hfaithful : (s.caches place).IsFaithful e asked)
    (hdigests : ∀ q ∈ asked, q.check = .ok () → params.check = .ok () →
      q.cacheKey = params.cacheKey → q.encode = params.encode)
    (hparams : params ∈ asked) (hbefore : ∀ i ∈ before, i.Watches)
    (hafter : ∀ i ∈ after, i.Watches) (hanswers : e.Answers params result n) :
    Cached e asked place params result n s
      (((Client.withCache e before place after).search params).run s).1
      (((Client.withCache e before place after).search params).run s).2 := by
  cases hcheck : params.check with
  | error cause =>
    obtain ⟨s₁, -, hrun, -⟩ := hanswers (s.under .fresh) rfl
    rw [Engine.run_execute_of_error hcheck] at hrun
    have hresult : .error (.invalid cause) = result := congrArg Prod.fst hrun
    unfold Client.search
    rw [Client.run_searchWith_of_error hcheck, ← hresult]
    exact ⟨.of_same (fun hoverflows => nomatch hoverflows.page) (.error _),
      ⟨[], (List.append_nil _).symm, List.nil_sublist _⟩, hfaithful⟩
  | ok _ =>
    obtain ⟨seen, more, hseen, hmore, hrun⟩ := run_search_withCache hbefore place hcheck s
    have hthere : (((s.under .fresh).seeing seen).caches place).IsFaithful e asked := hfaithful
    obtain ⟨hrepeats, ⟨sent, hsent, hsublist⟩, hkept⟩ :=
      cached_caching hthere (fun q hq hvalid => hdigests q hq hvalid hcheck) hparams hcheck rfl
        hafter hanswers
    rw [hrun]
    -- the watchers in front see what they see, and the requests are the same
    have hstart : Happening.exchanges ((s.under .fresh).seeing seen).trace =
        Happening.exchanges s.trace := by
      rw [(Session.continues_seeing _ _).exchanges, hseen, List.append_nil]
      rfl
    have hend : ∀ s₁ : Session σ, Happening.exchanges (s₁.seeing more).trace =
        Happening.exchanges s₁.trace := by
      intro s₁
      rw [(Session.continues_seeing _ _).exchanges, hmore, List.append_nil]
    refine ⟨⟨fun hnone => hrepeats.same fun hoverflows => hnone ⟨?_, hoverflows.page,
      hoverflows.full⟩, fun hoverflows => hrepeats.overflow ⟨?_, hoverflows.page,
      hoverflows.full⟩⟩, ⟨sent, ?_, hsublist⟩, hkept⟩
    · rw [hend, ← hstart]
      exact hoverflows.sent
    · rw [hstart, ← hend]
      exact hoverflows.sent
    · unfold Session.Adds at hsent ⊢
      rw [hend, hsent, hstart]

/-- Two clients side by side: as long as the cache is faithful, the results agree, and every request
of the client with the cache is one of the other's. -/
theorem searched_alike {asked : List Params} {place : Nat} {s' t t' : Session σ}
    {calls calls' : List (Made σ)} (hstateless : e.IsStateless)
    (hdigests : ∀ p ∈ asked, ∀ q ∈ asked, p.check = .ok () → q.check = .ok () →
      p.cacheKey = q.cacheKey → p.encode = q.encode)
    (hbefore : ∀ i ∈ before, i.Watches) (hafter : ∀ i ∈ after, i.Watches)
    (hcached : (Client.withCache e before place after).Searched s calls s')
    (hplain : (⟨e, before ++ after⟩ : Client σ).Searched t calls' t')
    (hfaithful : (s.caches place).IsFaithful e asked)
    (hasked : ∀ params ∈ calls.map Made.params, params ∈ asked)
    (hcalls : calls.map Made.params = calls'.map Made.params) :
    List.Forall₂ (fun made made' => made.Repeats place made'.result) calls calls' ∧
      ∃ sent sent', s.Adds s' sent ∧ t.Adds t' sent' ∧ sent.Sublist sent' := by
  have hwatch : ∀ i ∈ (⟨e, before ++ after⟩ : Client σ).interceptors, i.Watches := fun i hi =>
    (List.mem_append.mp hi).elim (hbefore i) (hafter i)
  induction hcached generalizing t calls' with
  | none hrests =>
    cases hplain with
    | none hrests' =>
      refine ⟨.nil, [], [], ?_, ?_, .refl _⟩
      · exact hrests.exchanges.trans (List.append_nil _).symm
      · exact hrests'.exchanges.trans (List.append_nil _).symm
    | more => cases hcalls
  | @more s s₁ s₂ s' params given calls hrests hrun _ ih =>
    cases hplain with
    | none => cases hcalls
    | @more _ t₁ t₂ _ params' plain calls' hrests' hrun' rest' =>
      obtain ⟨hparams, hrest⟩ := List.cons.inj hcalls
      obtain rfl : params = params' := hparams
      obtain ⟨result, n, hanswers⟩ := Engine.exists_answers hstateless params t₁
      obtain ⟨t₃, hsearch, hadds'⟩ := search_plain hwatch hanswers (s := t₁)
      obtain ⟨rfl, rfl⟩ := Prod.mk.inj (hrun'.symm.trans hsearch)
      have hmem : params ∈ asked := hasked params List.mem_cons_self
      have hkept : (s₁.caches place).IsFaithful e asked := by
        rw [hrests.caches]
        exact hfaithful
      obtain ⟨hrepeats, ⟨sent, hadds, hsublist⟩, hfaithful'⟩ := cached_search hkept
        (fun q hq => hdigests q hq params hmem) hmem hbefore hafter hanswers
      rw [hrun] at hrepeats hadds hfaithful'
      obtain ⟨hforall, more, more', hmore, hmore', hsublist'⟩ := ih rest' hfaithful'
        (fun q hq => hasked q (List.mem_cons_of_mem _ hq)) hrest
      refine ⟨.cons hrepeats hforall, sent ++ more, _, ?_, ?_, hsublist.append hsublist'⟩
      · unfold Session.Adds at hmore hadds ⊢
        rw [hmore, hadds, hrests.exchanges, List.append_assoc]
      · unfold Session.Adds at hmore' hadds' ⊢
        rw [hmore', hadds', hrests'.exchanges, List.append_assoc]

end Searches

/-- **A cache that nobody notices.** Over a server without memory, and as long as no two of the
requests have the same digest, a client with a cache that was empty at first and interceptors that
only report searches and call hooks finds what it would find without the cache, search by search,
unless a page comes that cannot be kept, where it breaks off. Every request that it sends would be
sent without the cache. -/
theorem cache_transparent {e : Engine σ} (hstateless : e.IsStateless)
    {before after : List (Interceptor σ)} (hbefore : ∀ i ∈ before, i.IsWatcher)
    (hafter : ∀ i ∈ after, i.IsWatcher) (place : Nat) {s s' t t' : Session σ}
    {calls calls' : List (Made σ)} (hempty : (s.caches place).pages = [])
    (hcached : (Client.withCache e before place after).Searched s calls s')
    (hplain : (⟨e, before ++ after⟩ : Client σ).Searched t calls' t')
    (hcalls : calls.map Made.params = calls'.map Made.params)
    (hdigests : ∀ p ∈ calls.map Made.params, ∀ q ∈ calls.map Made.params, p.check = .ok () →
      q.check = .ok () → p.cacheKey = q.cacheKey → p.encode = q.encode) :
    List.Forall₂ (fun made made' => made.Repeats place made'.result) calls calls' ∧
      ∃ sent sent', s.Adds s' sent ∧ t.Adds t' sent' ∧ sent.Sublist sent' := by
  refine searched_alike hstateless hdigests (fun i hi => (hbefore i hi).watches)
    (fun i hi => (hafter i hi).watches) hcached hplain (fun p hp => ?_) (fun _ h => h) hcalls
  rw [hempty] at hp
  exact absurd hp List.not_mem_nil

/-- Both pages of a server are asked for, and the first one again. -/
def bothAndFirst : List Params :=
  [.default, { Params.default with start := 1 }, .default]

/-- Their digests are different. -/
theorem encode_eq_of_mem_bothAndFirst : ∀ p ∈ bothAndFirst, ∀ q ∈ bothAndFirst,
    p.cacheKey = q.cacheKey → p.encode = q.encode := by
  have hkey : Params.default.cacheKey ≠ { Params.default with start := 1 }.cacheKey := by
    decide +kernel
  have hcases : ∀ p ∈ bothAndFirst, p = .default ∨ p = { Params.default with start := 1 } := by
    decide
  intro p hp q hq heq
  rcases hcases p hp with rfl | rfl
  · rcases hcases q hq with rfl | rfl
    · rfl
    · exact absurd heq hkey
  · rcases hcases q hq with rfl | rfl
    · exact absurd heq.symm hkey
    · rfl

/-- A cache with room for one page goes unnoticed. -/
theorem cache_transparent_twofold : twofold.engine.IsStateless ∧
    ∃ calls calls' s' t',
      (Client.withCache twofold.engine [logging] 0 []).Searched narrow calls s' ∧
      twofold.Searched idle calls' t' ∧ calls.map Made.params = bothAndFirst ∧
      List.Forall₂ (fun made made' => made.Repeats 0 made'.result) calls calls' ∧
      ∃ sent sent', narrow.Adds s' sent ∧ idle.Adds t' sent' ∧ sent.Sublist sent' := by
  have hstateless : twofold.engine.IsStateless := fun _ _ _ => rfl
  obtain ⟨calls, s', hcached, hcalls⟩ :=
    (Client.withCache twofold.engine [logging] 0 []).exists_searched bothAndFirst narrow
  obtain ⟨calls', t', hplain, hcalls'⟩ := twofold.exists_searched bothAndFirst idle
  have halike := cache_transparent hstateless isWatcher_twofold
    (fun _ hi => absurd hi List.not_mem_nil) 0 rfl hcached hplain (hcalls.trans hcalls'.symm)
    (by rw [hcalls]; exact fun p hp q hq _ _ => encode_eq_of_mem_bothAndFirst p hp q hq)
  exact ⟨hstateless, calls, calls', s', t', hcached, hplain, hcalls, halike⟩

/-- A session with a cache that should keep its pages for the longest time that there is. -/
def everlasting : Session Unit :=
  { narrow with caches := fun _ => .empty .longest 1 }

theorem canStore_everlasting (now : Nat) : (everlasting.caches 0).canStore now = false :=
  decide_eq_false (Nat.not_lt.mpr (Nat.le_trans (by decide) (Nat.le_add_left _ now)))

/-- The page of the first search comes, and cannot be kept. -/
theorem exists_run_search_everlasting : ∃ s',
    ((Client.withCache twofold.engine [logging] 0 []).search .default).run everlasting =
      (.error .overflow, s') := by
  have hwatch : ∀ i ∈ [(logging : Interceptor Unit)], i.Watches :=
    fun i hi => (isWatcher_twofold i hi).watches
  have hvalid : Params.default.check = .ok () := rfl
  obtain ⟨seen, more, -, -, hrun⟩ :=
    @run_search_withCache _ twofold.engine [logging] [] hwatch .default 0 hvalid everlasting
  let entered := (everlasting.under .fresh).seeing seen
  have hdecides : (Decider.caching 0 0 .default).run entered =
      (.pass .default (keepPage 0 Params.default.cacheKey),
        entered.setCache 0 (everlasting.caches 0)) := Decider.run_caching 0 0 .default entered
  obtain ⟨s₁, hexecute, hgoes⟩ := Engine.run_execute_of_page (e := twofold.engine)
    (s := entered.setCache 0 (everlasting.caches 0)) hvalid rfl rfl rfl rfl
  have hcan : (s₁.caches 0).canStore s₁.clock = false := by
    rw [hgoes.caches, Session.caches_setCache]
    exact canStore_everlasting _
  have hinner : ((Next.through twofold.engine []).run .default).run
      (entered.setCache 0 (everlasting.caches 0)) = _ := hexecute
  rw [← Decider.interceptor_caching, Decider.run_interceptor_of_pass _ hdecides, hinner,
    run_keepPage_overflow hcan] at hrun
  exact ⟨_, hrun⟩

/-- A cache that should keep its pages for ever does not go unnoticed: with it the very first search
breaks off, without it the search finds its page. -/
theorem not_cache_transparent_everlasting : twofold.engine.IsStateless ∧
    (everlasting.caches 0).pages = [] ∧ ∃ calls calls' s' t',
      (Client.withCache twofold.engine [logging] 0 []).Searched everlasting calls s' ∧
      twofold.Searched idle calls' t' ∧ calls.map Made.params = [.default] ∧
      calls'.map Made.params = [.default] ∧
      ¬ List.Forall₂ (fun made made' => SameResult made.params made.result made'.result)
        calls calls' := by
  obtain ⟨s', hcached⟩ := exists_run_search_everlasting
  obtain ⟨t', hplain⟩ := exists_run_search_twofold .default rfl idle
  refine ⟨fun _ _ _ => rfl, rfl, _, _, s', t', .more ⟨rfl, rfl⟩ hcached (.none ⟨rfl, rfl⟩),
    .more ⟨rfl, rfl⟩ hplain (.none ⟨rfl, rfl⟩), rfl, rfl, ?_⟩
  rintro (_ | ⟨hsame, -⟩)
  cases hsame

end PaperSearch
