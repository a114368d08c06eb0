import PaperSearch.Proofs.Client.Passing

/-!
# Interceptors that only watch

An interceptor that only watches goes the rest of the way once, with the parameters as they came,
and hands back what came of it. All that it changes is what is seen, requests apart
(`Interceptor.Watches`). The interceptors that report searches and that call hooks are such
(`Interceptor.IsWatcher`), and a search through them is one past them (`run_through_watchers`).

`Client.run_search_of_watchers` says what a search comes to through such interceptors alone, and
`Client.search_of_watchers` what that has to do with its parameters and its token.
-/

namespace PaperSearch

variable {σ : Type}

/-- A session in which some more things were seen. -/
def Session.seeing (s : Session σ) (seen : List Happening) : Session σ :=
  { s with trace := s.trace ++ seen }

theorem Session.continues_seeing (s : Session σ) (seen : List Happening) :
    s.Continues (s.seeing seen) (Happening.exchanges seen) (Happening.counted seen) where
  token := rfl
  caches := rfl
  exchanges := Happening.exchanges_append s.trace seen
  counts := Happening.counted_append s.trace seen

theorem Session.seeing_nil (s : Session σ) : s.seeing [] = s := by
  unfold seeing
  rw [List.append_nil]

theorem Session.seeing_append (s : Session σ) (seen more : List Happening) :
    s.seeing (seen ++ more) = (s.seeing seen).seeing more := by
  unfold seeing
  rw [List.append_assoc]

/-! ## One interceptor -/

/-- An interceptor sees something before the rest of the way and something after it, no requests,
and changes nothing else. -/
def Interceptor.Watches (i : Interceptor σ) : Prop :=
  ∀ (params : Params) (next : Next σ) (s : Session σ), ∃ before after : List Happening,
    Happening.exchanges before = [] ∧ Happening.exchanges after = [] ∧
      (i params next).run s =
        (((next.run params).run (s.seeing before)).1,
          ((next.run params).run (s.seeing before)).2.seeing after)

theorem watches_logging : Interceptor.Watches (logging : Interceptor σ) := by
  intro params next s
  let before : Happening := .event ⟨.debug, "Search started",
    [("query", .text params.query), ("start", .number params.start.toNat)] ++
      [("max_results", .number params.maxResults.toNat)]⟩
  rcases hrun : (next.run params).run (s.seeing [before]) with ⟨result, s'⟩
  have hrun' : (next.run params).run (s.see before) = (result, s') := hrun
  unfold logging
  simp only [Search.run_bind, Search.run_report]
  rw [hrun']
  cases result with
  | ok page => exact ⟨[before], [_], rfl, rfl, by rw [hrun]; rfl⟩
  | error error => exact ⟨[before], [_], rfl, rfl, by rw [hrun]; rfl⟩

/-- What an interceptor with hooks does with a search: it writes down what the one hook makes of the
parameters, goes the rest of the way once, writes down what the other makes of the parameters and of
the result, and hands the result back. -/
theorem Hooks.run_interceptor (hooks : Hooks) (params : Params) (next : Next σ) (s : Session σ) :
    (hooks.interceptor params next).run s =
      let inner := (next.run params).run
        (s.seeing (hooks.onRequest.toList.map fun hook => .note (hook params)))
      (inner.1,
        inner.2.seeing (hooks.onResponse.toList.map fun hook => .note (hook params inner.1))) := by
  obtain ⟨onRequest, onResponse⟩ := hooks
  have hbefore : s.seeing [] = s := s.seeing_nil
  cases onRequest with
  | none =>
    cases onResponse with
    | none =>
      dsimp only [Option.toList, List.map]
      rw [hbefore, Session.seeing_nil]
      rfl
    | some hook =>
      dsimp only [Option.toList, List.map]
      rw [hbefore]
      rfl
  | some request =>
    cases onResponse with
    | none =>
      dsimp only [Option.toList, List.map]
      rw [Session.seeing_nil]
      rfl
    | some hook => rfl

theorem watches_hooks (hooks : Hooks) :
    Interceptor.Watches (hooks.interceptor : Interceptor σ) := by
  intro params next s
  refine ⟨_, _, ?_, ?_, hooks.run_interceptor params next s⟩
  · cases hooks.onRequest <;> rfl
  · cases hooks.onResponse <;> rfl

/-- The interceptors of the library that only watch. -/
def Interceptor.IsWatcher (i : Interceptor σ) : Prop :=
  i = logging ∨ ∃ hooks : Hooks, i = hooks.interceptor

theorem Interceptor.IsWatcher.watches {i : Interceptor σ} (h : i.IsWatcher) : i.Watches := by
  rcases h with rfl | ⟨hooks, rfl⟩
  · exact watches_logging
  · exact watches_hooks hooks

/-! ## Some interceptors -/

/-- A search through interceptors that only watch is one past them. -/
theorem run_through_watchers (e : Engine σ) {watchers : List (Interceptor σ)}
    (hwatch : ∀ i ∈ watchers, i.Watches) (inner : List (Interceptor σ)) (params : Params)
    (s : Session σ) : ∃ before after : List Happening,
      Happening.exchanges before = [] ∧ Happening.exchanges after = [] ∧
        ((Next.through e (watchers ++ inner)).run params).run s =
          ((((Next.through e inner).run params).run (s.seeing before)).1,
            (((Next.through e inner).run params).run (s.seeing before)).2.seeing after) := by
  induction watchers generalizing s with
  | nil =>
    refine ⟨[], [], rfl, rfl, ?_⟩
    rw [Session.seeing_nil, Session.seeing_nil]
    rfl
  | cons i rest ih =>
    obtain ⟨before, after, hbefore, hafter, hrun⟩ :=
      hwatch i List.mem_cons_self params (Next.through e (rest ++ inner)) s
    obtain ⟨before', after', hbefore', hafter', hrun'⟩ :=
      ih (fun j hj => hwatch j (List.mem_cons_of_mem i hj)) (s.seeing before)
    refine ⟨before ++ before', after' ++ after, ?_, ?_, ?_⟩
    · rw [Happening.exchanges_append, hbefore, hbefore']
      rfl
    · rw [Happening.exchanges_append, hafter, hafter']
      rfl
    · have hthrough : ((Next.through e (i :: rest ++ inner)).run params).run s =
          (i params (Next.through e (rest ++ inner))).run s := rfl
      rw [hthrough, hrun, hrun', Session.seeing_append, Session.seeing_append]

/-! ## The engine under a token that nobody fires -/

namespace Engine

variable (e : Engine σ) (params : Params) {s : Session σ}

/-- The engine sends the request of its parameters, some times or not at all, and leaves token and
caches as they are. -/
theorem continues_execute (h : s.token = .fresh) : ∃ n counted,
    s.Continues ((e.execute params).run s).2 (List.replicate n (e.method, params.encode))
      counted := by
  cases hcheck : params.check with
  | error cause =>
    rw [run_execute_of_error hcheck]
    exact ⟨0, [], .of_eq rfl rfl rfl⟩
  | ok _ =>
    obtain ⟨failures, hreaches, -⟩ := e.exists_reaches params.encode 1 h e.limit_pos
    rw [run_execute, run_rawSearch hcheck]
    exact ⟨_, _, hreaches.continues⟩

theorem verdict_ne_exhausted (outcome : Outcome) (number : UInt32) (direction : Exhausted) :
    verdict outcome number ≠ .error (.exhausted direction) := by
  intro h
  unfold verdict failure at h
  split at h
  · cases h
  · split at h
    · cases h
    · cases h

theorem decoded_ne_exhausted {result : Result Response} {direction : Exhausted}
    (h : result ≠ .error (.exhausted direction)) :
    e.decoded params result ≠ .error (.exhausted direction) := by
  intro hresult
  unfold decoded at hresult
  split at hresult
  · cases hresult
    exact h rfl
  · split at hresult
    · cases hresult
    · cases hresult

/-- The engine does not say that there are no more pages. -/
theorem execute_ne_exhausted (h : s.token = .fresh) (direction : Exhausted) :
    ((e.execute params).run s).1 ≠ .error (.exhausted direction) := by
  cases hcheck : params.check with
  | error cause =>
    rw [run_execute_of_error hcheck]
    exact nofun
  | ok _ =>
    obtain ⟨failures, -, hlast⟩ := e.exists_reaches params.encode 1 h e.limit_pos
    rw [run_execute, run_rawSearch hcheck]
    rcases hlast with hends | hbreaks
    · obtain ⟨last, -, hresult⟩ := hends.result
      rw [hresult]
      exact e.decoded_ne_exhausted params (verdict_ne_exhausted _ last direction)
    · rw [hbreaks.result]
      exact nofun

end Engine

/-! ## Clients -/

namespace Client

variable {c : Client σ}

/-- A search of a client whose interceptors only watch is one of its engine. -/
theorem run_search_of_watchers (hwatch : ∀ i ∈ c.interceptors, i.Watches) (params : Params)
    (s : Session σ) : ∃ before after : List Happening,
      Happening.exchanges before = [] ∧ Happening.exchanges after = [] ∧
        (c.search params).run s =
          (((c.engine.execute params).run ((s.under .fresh).seeing before)).1,
            ((c.engine.execute params).run ((s.under .fresh).seeing before)).2.seeing after) := by
  unfold search
  cases hcheck : params.check with
  | error cause =>
    refine ⟨[], [], rfl, rfl, ?_⟩
    rw [c.run_searchWith_of_error hcheck, Engine.run_execute_of_error hcheck, Session.seeing_nil,
      Session.seeing_nil]
  | ok _ =>
    obtain ⟨before, after, hbefore, hafter, hrun⟩ :=
      run_through_watchers c.engine hwatch [] params (s.under .fresh)
    rw [List.append_nil] at hrun
    refine ⟨before, after, hbefore, hafter, ?_⟩
    rw [run_searchWith_of_ok hcheck, hrun]
    rfl

/-- The page carries the parameters of the search, nobody has touched the token, and no search says
that there are no more pages. -/
theorem search_of_watchers (hwatch : ∀ i ∈ c.interceptors, i.Watches) {params : Params}
    {s s' : Session σ} {result : Result Page} (h : (c.search params).run s = (result, s')) :
    s'.token = .fresh ∧ (∀ page, result = .ok page → page.params = params) ∧
      ∀ direction, result ≠ .error (.exhausted direction) := by
  obtain ⟨before, after, -, -, hrun⟩ := run_search_of_watchers hwatch params s
  rw [h] at hrun
  obtain ⟨rfl, rfl⟩ := Prod.mk.inj hrun
  have hfresh : ((s.under .fresh).seeing before).token = .fresh := rfl
  obtain ⟨n, counted, hgoes⟩ := c.engine.continues_execute params hfresh
  refine ⟨hgoes.token.trans hfresh, fun page hpage => ?_,
    c.engine.execute_ne_exhausted params hfresh⟩
  exact Engine.params_of_execute (Prod.ext hpage rfl)

/-- A search whose first exchange brings a page. -/
theorem exists_run_search_of_page (hwatch : ∀ i ∈ c.interceptors, i.Watches) {params : Params}
    {s : Session σ} {response : Response} {page : Page} (hvalid : params.check = .ok ())
    (hexchange : (c.engine.transport.exchange c.engine.method params.encode s.server).1 =
      .ok response) (hstatus : response.status = 200)
    (hdecode : c.engine.decode response = .ok page) :
    ∃ s', (c.search params).run s = (.ok { page with params }, s') := by
  obtain ⟨before, after, -, -, hrun⟩ := run_search_of_watchers hwatch params s
  have hfresh : ((s.under .fresh).seeing before).token = .fresh := rfl
  obtain ⟨s', hexecute, -⟩ :=
    c.engine.run_execute_of_page hvalid hfresh hexchange hstatus hdecode
  rw [hexecute] at hrun
  exact ⟨_, hrun⟩

end Client

end PaperSearch
