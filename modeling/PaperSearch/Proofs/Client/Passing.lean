import PaperSearch.Proofs.Client.Sending

/-!
# The way of a search through interceptors

An interceptor that goes the rest of the way once at most decides, when it is entered, whether it
passes the search on or answers itself (`Decider`). Whatever it does before is done when it decides,
and whatever it does later it does with the result that comes back. The interceptors of the library
are such (`Decider.interceptor_logging`, `interceptor_hooks`, `interceptor_caching`).

A search through such interceptors is a journey: some are entered in the order in which they stand
(`Enters`), the search turns back at the engine or at the first that answers (`Turns`), and those
that were passed are left in the reverse order (`leave`). `exists_goes` finds the journey of a
search, by induction on the interceptors, and `Journey.Carries` says what it carries along:
parameters on the way in, results on the way out, and requests.
-/

namespace PaperSearch

open Search (SendsOnly)

variable {σ : Type}

/-! ## Interceptors that decide -/

/-- What an interceptor decides when it is entered. -/
inductive Decision (σ : Type) where
  /-- It goes the rest of the way with these parameters, and makes something of what comes back. -/
  | pass (handed : Params) (finish : Result Page → Search σ (Result Page))
  | answer (result : Result Page)

/-- How an interceptor decides, given how many interceptors stand behind it and the parameters. -/
def Decider (σ : Type) := Nat → Params → Search σ (Decision σ)

/-- An interceptor that was passed: the parameters that it saw, those that it handed on, and what it
makes of the result. -/
structure Pass (σ : Type) where
  seen : Params
  handed : Params
  finish : Result Page → Search σ (Result Page)

namespace Decider

/-- The interceptor that decides so. -/
def interceptor (d : Decider σ) : Interceptor σ := fun params next => do
  match ← d next.remaining params with
  | .pass handed finish => finish (← next.run handed)
  | .answer result => return result

theorem run_interceptor_of_pass {d : Decider σ} {params handed : Params} (next : Next σ)
    {s s' : Session σ} {finish : Result Page → Search σ (Result Page)}
    (h : (d next.remaining params).run s = (.pass handed finish, s')) :
    (d.interceptor params next).run s =
      (finish ((next.run handed).run s').1).run ((next.run handed).run s').2 := by
  unfold interceptor
  rw [Search.run_bind, h]
  rfl

theorem run_interceptor_of_answer {d : Decider σ} {params : Params} (next : Next σ)
    {s s' : Session σ} {result : Result Page}
    (h : (d next.remaining params).run s = (.answer result, s')) :
    (d.interceptor params next).run s = (result, s') := by
  unfold interceptor
  rw [Search.run_bind, h]
  rfl

/-- The interceptor may pass a search on so. -/
def Makes (d : Decider σ) (pass : Pass σ) : Prop :=
  ∃ behind s s', (d behind pass.seen).run s = (.pass pass.handed pass.finish, s')

/-- No request is sent by the interceptor itself, neither on the way in nor on the way out. -/
structure SendsNothing (d : Decider σ) : Prop where
  enter : ∀ behind params, SendsOnly (fun _ => False) (d behind params)
  finish : ∀ pass, d.Makes pass → ∀ result, SendsOnly (fun _ => False) (pass.finish result)

/-! ### The interceptors of the library -/

/-- Reports that a search starts, and how it ends. -/
def logging : Decider σ := fun _ params => do
  let about := [("query", .text params.query), ("start", .number params.start.toNat)]
  Search.report .debug "Search started"
    (about ++ [("max_results", .number params.maxResults.toNat)])
  return .pass params fun result => do
    match result with
    | .ok page =>
      Search.report .info "Search completed"
        (about ++ [("entries", .number page.size), ("total_results", .number page.total.toNat)])
    | .error e => Search.report .warn ("Search failed: " ++ e.message) about
    return result

theorem interceptor_logging : (logging : Decider σ).interceptor = PaperSearch.logging :=
  rfl

/-- Calls the hooks that there are. -/
def hooks (hooks : Hooks) : Decider σ := fun _ params => do
  match hooks.onRequest with
  | some hook => Search.note (hook params)
  | none => pure ()
  return .pass params fun result => do
    match hooks.onResponse with
    | some hook => Search.note (hook params result)
    | none => pure ()
    return result

theorem interceptor_hooks (h : Hooks) : (hooks h : Decider σ).interceptor = h.interceptor := by
  obtain ⟨onRequest, onResponse⟩ := h
  cases onRequest with
  | none => rfl
  | some hook => rfl

/-- Answers from a cache when it can, and keeps every page that comes back. -/
def caching (cache : Nat) : Decider σ := fun _ params => do
  match ← lookupPage cache params.cacheKey with
  | some page =>
    Search.report .debug ("Cache hit for query: " ++ params.query) []
    return .answer (.ok page)
  | none =>
    return .pass params fun
      | .error e => return .error e
      | .ok page => do
        if ← storePage cache params.cacheKey page then return .ok page else Search.breakOff

theorem interceptor_caching (cache : Nat) :
    (caching cache : Decider σ).interceptor = PaperSearch.caching cache := by
  funext params next
  refine (bind_assoc (lookupPage cache params.cacheKey) _ _).trans (bind_congr fun found => ?_)
  cases found with
  | none => rfl
  | some page => rfl

end Decider

/-! ## The way in, the turn and the way out -/

/-- Interceptors are entered one after another, each with what the one before has handed on, and
pass the search on. So many others stand behind the last. -/
inductive Enters (behind : Nat) :
    List (Decider σ) → Params → Session σ → List (Pass σ) → Params → Session σ → Prop
  | none (params : Params) (s : Session σ) : Enters behind [] params s [] params s
  | more {d : Decider σ} {rest : List (Decider σ)} {params handed turned : Params}
      {s s₁ s' : Session σ} {finish : Result Page → Search σ (Result Page)}
      {passes : List (Pass σ)}
      (h : (d (rest.length + behind) params).run s = (.pass handed finish, s₁))
      (inner : Enters behind rest handed s₁ passes turned s') :
      Enters behind (d :: rest) params s (⟨params, handed, finish⟩ :: passes) turned s'

/-- A search turns back: at the engine if no interceptor is left, and else at the first that is
left, which answers. -/
inductive Turns (e : Engine σ) :
    List (Decider σ) → Params → Session σ → Result Page → Session σ → Prop
  | engine {params : Params} {s s' : Session σ} {result : Result Page}
      (h : (e.execute params).run s = (result, s')) : Turns e [] params s result s'
  | answer {d : Decider σ} {rest : List (Decider σ)} {params : Params} {s s' : Session σ}
      {result : Result Page} (h : (d rest.length params).run s = (.answer result, s')) :
      Turns e (d :: rest) params s result s'

/-- Interceptors are left one after another, each with what the one before has made of the
result. -/
def leave (passes : List (Pass σ)) (back : Result Page × Session σ) : Result Page × Session σ :=
  passes.foldl (fun back pass => (pass.finish back.1).run back.2) back

theorem leave_append (passes more : List (Pass σ)) (back : Result Page × Session σ) :
    leave (passes ++ more) back = leave more (leave passes back) :=
  List.foldl_append

theorem Next.remaining_through (e : Engine σ) (interceptors : List (Interceptor σ)) :
    (Next.through e interceptors).remaining = interceptors.length := by
  cases interceptors <;> rfl

/-- Some interceptors are entered, up to the first that does not pass the search on. -/
theorem exists_enters (deciders : List (Decider σ)) (params : Params) (s : Session σ) :
    ∃ passed others passes turned s', deciders = passed ++ others ∧
      Enters others.length passed params s passes turned s' ∧
      ∀ d rest, others = d :: rest →
        ∃ result s'', (d rest.length turned).run s' = (.answer result, s'') := by
  induction deciders generalizing params s with
  | nil => exact ⟨[], [], [], params, s, rfl, .none params s, nofun⟩
  | cons d rest ih =>
    rcases hrun : (d rest.length params).run s with ⟨decision, s₁⟩
    cases decision with
    | answer result =>
      refine ⟨[], d :: rest, [], params, s, rfl, .none params s, ?_⟩
      rintro _ _ ⟨⟩
      exact ⟨result, s₁, hrun⟩
    | pass handed finish =>
      obtain ⟨passed, others, passes, turned, s', rfl, henters, hothers⟩ := ih handed s₁
      rw [List.length_append] at hrun
      exact ⟨d :: passed, others, _, turned, s', rfl, .more hrun henters, hothers⟩

namespace Enters

variable {behind : Nat} {deciders : List (Decider σ)} {params turned : Params} {s s' : Session σ}
  {passes : List (Pass σ)}

theorem length_eq (h : Enters behind deciders params s passes turned s') :
    passes.length = deciders.length := by
  induction h with
  | none => rfl
  | more _ _ ih => exact congrArg (· + 1) ih

/-- A search goes in, then the rest of its way, and then out again: what was entered last is left
first. -/
theorem run_through (h : Enters behind deciders params s passes turned s') (e : Engine σ)
    {inner : List (Interceptor σ)} (hinner : inner.length = behind) :
    ((Next.through e (deciders.map Decider.interceptor ++ inner)).run params).run s =
      leave passes.reverse (((Next.through e inner).run turned).run s') := by
  induction h with
  | none => rfl
  | @more d rest params handed turned s s₁ s' finish passes hd _ ih =>
    have hremaining : (Next.through e (rest.map Decider.interceptor ++ inner)).remaining =
        rest.length + behind := by
      rw [Next.remaining_through, List.length_append, List.length_map, hinner]
    have hrun := Decider.run_interceptor_of_pass
      (Next.through e (rest.map Decider.interceptor ++ inner)) (hremaining ▸ hd)
    rw [List.reverse_cons, leave_append, ← ih]
    exact hrun

/-- Each pass is made by the interceptor at its place. -/
theorem exists_makes (h : Enters behind deciders params s passes turned s') {i : Nat}
    {pass : Pass σ} (hpass : passes[i]? = some pass) :
    ∃ d, deciders[i]? = some d ∧ d.Makes pass := by
  induction h generalizing i with
  | none => cases hpass
  | @more d rest params handed turned s s₁ s' finish passes hd _ ih =>
    cases i with
    | zero =>
      cases hpass
      exact ⟨d, rfl, _, s, s₁, hd⟩
    | succ i => exact ih hpass

end Enters

/-! ## Journeys -/

/-- The course of a search through interceptors. -/
structure Journey (σ : Type) where
  /-- The interceptors that pass the search on, in the order in which they stand. -/
  passed : List (Decider σ)
  /-- Those behind them, the first of which answers. -/
  others : List (Decider σ)
  passes : List (Pass σ)
  /-- The parameters with which the search turns back. -/
  turned : Params
  reached : Session σ
  back : Result Page
  returning : Session σ

namespace Journey

/-- A search goes so, `r` being what it gives and leaves. -/
structure Goes (j : Journey σ) (e : Engine σ) (deciders : List (Decider σ)) (params : Params)
    (s : Session σ) (r : Result Page × Session σ) : Prop where
  split : deciders = j.passed ++ j.others
  /-- The first interceptors are entered in the order in which they stand, each once. -/
  enters : Enters j.others.length j.passed params s j.passes j.turned j.reached
  /-- The engine runs once, or not at all if an interceptor answers. -/
  turns : Turns e j.others j.turned j.reached j.back j.returning
  /-- They are left in the reverse order, each once. -/
  leaves : r = leave j.passes.reverse (j.back, j.returning)

end Journey

theorem Turns.run_through {e : Engine σ} {others : List (Decider σ)} {turned : Params}
    {s s' : Session σ} {back : Result Page} (h : Turns e others turned s back s') :
    ((Next.through e (others.map Decider.interceptor)).run turned).run s = (back, s') := by
  cases h with
  | engine h => exact h
  | @answer d rest _ _ _ _ h =>
    refine Decider.run_interceptor_of_answer (Next.through e (rest.map Decider.interceptor)) ?_
    rw [Next.remaining_through, List.length_map]
    exact h

/-- Every search goes its way. -/
theorem exists_goes (e : Engine σ) (deciders : List (Decider σ)) (params : Params)
    (s : Session σ) : ∃ j : Journey σ, j.Goes e deciders params s
      (((Next.through e (deciders.map Decider.interceptor)).run params).run s) := by
  obtain ⟨passed, others, passes, turned, s₁, rfl, henters, hothers⟩ :=
    exists_enters deciders params s
  obtain ⟨back, s₂, hturns⟩ : ∃ back s₂, Turns e others turned s₁ back s₂ := by
    cases others with
    | nil => exact ⟨_, _, .engine rfl⟩
    | cons d rest =>
      obtain ⟨result, s₂, hanswer⟩ := hothers d rest rfl
      exact ⟨result, s₂, .answer hanswer⟩
  refine ⟨⟨passed, others, passes, turned, s₁, back, s₂⟩, rfl, henters, hturns, ?_⟩
  rw [List.map_append, henters.run_through e (List.length_map _), hturns.run_through]

/-! ## What a journey carries -/

/-- Parameters after so many rewrites. -/
def rewritten (rewrite : Nat → Params → Params) (params : Params) : Nat → Params
  | 0 => params
  | n + 1 => rewrite n (rewritten rewrite params n)

theorem rewritten_succ (rewrite : Nat → Params → Params) (params : Params) (n : Nat) :
    rewritten rewrite params (n + 1) =
      rewritten (fun i => rewrite (i + 1)) (rewrite 0 params) n := by
  induction n with
  | zero => rfl
  | succ n ih =>
    show rewrite (n + 1) (rewritten rewrite params (n + 1)) = _
    rw [ih]
    rfl

/-- Each interceptor sees what those before it have made of the parameters. -/
theorem Enters.seen_eq {behind : Nat} {deciders : List (Decider σ)} {params turned : Params}
    {s s' : Session σ} {passes : List (Pass σ)} {f : Nat → Params → Params}
    (h : Enters behind deciders params s passes turned s')
    (hrewrite : ∀ i d pass, deciders[i]? = some d → d.Makes pass → pass.handed = f i pass.seen) :
    (∀ i pass, passes[i]? = some pass → pass.seen = rewritten f params i) ∧
      turned = rewritten f params passes.length := by
  induction h generalizing f with
  | none => exact ⟨nofun, rfl⟩
  | @more d rest params handed turned s s₁ s' finish passes hd _ ih =>
    have hhanded : handed = f 0 params :=
      hrewrite 0 d ⟨params, handed, finish⟩ rfl ⟨_, s, s₁, hd⟩
    obtain ⟨hseen, hturned⟩ := ih (f := fun i => f (i + 1))
      fun i d pass hdecider hmakes => hrewrite (i + 1) d pass hdecider hmakes
    rw [hhanded] at hseen hturned
    refine ⟨fun i pass hpass => ?_, ?_⟩
    · cases i with
      | zero =>
        cases hpass
        rfl
      | succ i =>
        rw [rewritten_succ]
        exact hseen i pass hpass
    · rw [List.length_cons, rewritten_succ]
      exact hturned

namespace Pass

/-- An error is handed back as it came. -/
def Keeps (pass : Pass σ) (error : SearchError) : Prop :=
  ∀ s, ((pass.finish (.error error)).run s).1 = .error error

/-- No page is handed back but the one that came. -/
def KeepsPages (pass : Pass σ) : Prop :=
  ∀ result s page, ((pass.finish result).run s).1 = .ok page → result = .ok page

end Pass

theorem leave_error {passes : List (Pass σ)} {back : Result Page × Session σ}
    {error : SearchError} (hkeeps : ∀ pass ∈ passes, pass.Keeps error)
    (hback : back.1 = .error error) : (leave passes back).1 = .error error := by
  induction passes generalizing back with
  | nil => exact hback
  | cons pass passes ih =>
    refine ih (fun pass' hpass => hkeeps pass' (List.mem_cons_of_mem pass hpass)) ?_
    show ((pass.finish back.1).run back.2).1 = .error error
    rw [hback]
    exact hkeeps pass List.mem_cons_self back.2

theorem leave_ok {passes : List (Pass σ)} {back : Result Page × Session σ} {page : Page}
    (hkeeps : ∀ pass ∈ passes, pass.KeepsPages) (h : (leave passes back).1 = .ok page) :
    back.1 = .ok page := by
  induction passes generalizing back with
  | nil => exact h
  | cons pass passes ih =>
    refine hkeeps pass List.mem_cons_self back.1 back.2 page ?_
    exact ih (fun pass' hpass => hkeeps pass' (List.mem_cons_of_mem pass hpass)) h

theorem sends_leave {such : Method × String → Prop} {passes : List (Pass σ)}
    (hsends : ∀ pass ∈ passes, ∀ result, SendsOnly such (pass.finish result)) (result : Result Page)
    (s : Session σ) : s.Sends such (leave passes (result, s)).2 := by
  induction passes generalizing result s with
  | nil => exact .of_eq rfl
  | cons pass passes ih =>
    refine (hsends pass List.mem_cons_self result s).trans ?_
    exact ih (fun pass' hpass => hsends pass' (List.mem_cons_of_mem pass hpass)) _ _

theorem Enters.sends {behind : Nat} {deciders : List (Decider σ)} {params turned : Params}
    {s s' : Session σ} {passes : List (Pass σ)} {such : Method × String → Prop}
    (h : Enters behind deciders params s passes turned s')
    (hsends : ∀ d ∈ deciders, ∀ behind params, SendsOnly such (d behind params)) :
    s.Sends such s' := by
  induction h with
  | none => exact .of_eq rfl
  | @more d rest params handed turned s s₁ s' finish passes hd _ ih =>
    have hfirst := hsends d List.mem_cons_self (rest.length + behind) params s
    rw [hd] at hfirst
    exact hfirst.trans (ih fun d' hd' => hsends d' (List.mem_cons_of_mem d hd'))

/-- The page of a search carries the parameters of the search. -/
theorem Engine.params_of_execute {e : Engine σ} {params : Params} {s s' : Session σ} {page : Page}
    (h : (e.execute params).run s = (.ok page, s')) : page.params = params := by
  rw [run_execute] at h
  have hpage := congrArg Prod.fst h
  unfold decoded at hpage
  dsimp only at hpage
  split at hpage
  · cases hpage
  · split at hpage
    · cases hpage
    · cases hpage
      rfl

namespace Journey

/-- What a search that goes so carries along. -/
structure Carries (j : Journey σ) (e : Engine σ) (deciders : List (Decider σ)) (params : Params)
    (s : Session σ) (r : Result Page × Session σ) : Prop where
  /-- Each interceptor sees what those before it have made of the parameters, and what all of them
  have made of it comes to the engine, or to the interceptor that answers. -/
  rewrites : ∀ rewrite : Nat → Params → Params,
    (∀ i d pass, deciders[i]? = some d → d.Makes pass → pass.handed = rewrite i pass.seen) →
    (∀ i pass, j.passes[i]? = some pass → pass.seen = rewritten rewrite params i) ∧
      j.turned = rewritten rewrite params j.passes.length
  /-- The search comes to the engine if no interceptor ever answers. -/
  engine : (∀ d ∈ deciders, ∀ behind params s result s',
    (d behind params).run s ≠ (.answer result, s')) → j.others = []
  /-- What is behind an interceptor that answers is not entered: it may be anything, and so may the
  engine. -/
  unentered : ∀ d rest, j.others = d :: rest → ∀ (e' : Engine σ) (inner : List (Interceptor σ)),
    inner.length = rest.length →
    ((Next.through e' (j.passed.map Decider.interceptor ++ d.interceptor :: inner)).run params).run
      s = r
  /-- An error that comes back to an interceptor is what the search gives, if that interceptor and
  those before it hand it back as it came. -/
  errors : ∀ i error, (leave (j.passes.drop i).reverse (j.back, j.returning)).1 = .error error →
    (∀ k < i, ∀ d pass, deciders[k]? = some d → d.Makes pass → pass.Keeps error) →
    r.1 = .error error
  /-- A page that comes from the engine and is handed back as it came carries the parameters that
  came to the engine. -/
  page : j.others = [] → (∀ d ∈ deciders, ∀ pass, d.Makes pass → pass.KeepsPages) →
    ∀ page, r.1 = .ok page → page.params = j.turned
  /-- Every request of the engine is that of the parameters that came to it. -/
  sends : j.others = [] → j.reached.Sends (· = (e.method, j.turned.encode)) j.returning
  /-- These are all requests of the search if the interceptors send none themselves, and none is
  sent if an interceptor answers. -/
  requests : (∀ d ∈ deciders, d.SendsNothing) →
    (j.others = [] → s.Sends (· = (e.method, j.turned.encode)) r.2) ∧
      (j.others ≠ [] → Happening.exchanges r.2.trace = Happening.exchanges s.trace)

namespace Goes

variable {j : Journey σ} {e : Engine σ} {deciders : List (Decider σ)} {params : Params}
  {s : Session σ} {r : Result Page × Session σ}

theorem getElem?_of_passed (h : j.Goes e deciders params s r) {i : Nat} {d : Decider σ}
    (hd : j.passed[i]? = some d) : deciders[i]? = some d := by
  have hi := (List.getElem?_eq_some_iff.mp hd).1
  rw [h.split, List.getElem?_append_left hi]
  exact hd

theorem exists_makes (h : j.Goes e deciders params s r) {i : Nat} {pass : Pass σ}
    (hpass : j.passes[i]? = some pass) : ∃ d, deciders[i]? = some d ∧ d.Makes pass := by
  obtain ⟨d, hd, hmakes⟩ := h.enters.exists_makes hpass
  exact ⟨d, h.getElem?_of_passed hd, hmakes⟩

/-- What holds of an interceptor however it passes a search on holds of each pass. -/
theorem forall_passes (h : j.Goes e deciders params s r) {P : Pass σ → Prop}
    (hP : ∀ d ∈ deciders, ∀ pass, d.Makes pass → P pass) : ∀ pass ∈ j.passes, P pass := by
  intro pass hpass
  obtain ⟨i, hi⟩ := List.mem_iff_getElem?.mp hpass
  obtain ⟨d, hd, hmakes⟩ := h.exists_makes hi
  exact hP d (List.mem_of_getElem? hd) pass hmakes

theorem unentered (h : j.Goes e deciders params s r) {d : Decider σ} {rest : List (Decider σ)}
    (hothers : j.others = d :: rest) (e' : Engine σ) {inner : List (Interceptor σ)}
    (hinner : inner.length = rest.length) :
    ((Next.through e' (j.passed.map Decider.interceptor ++ d.interceptor :: inner)).run params).run
      s = r := by
  obtain ⟨hsplit, henters, hturns, hleaves⟩ := h
  rw [hothers] at henters hturns
  cases hturns with
  | answer hanswer =>
    have hremaining : (Next.through e' inner).remaining = rest.length := by
      rw [Next.remaining_through, hinner]
    have hrun := Decider.run_interceptor_of_answer (Next.through e' inner) (hremaining ▸ hanswer)
    rw [henters.run_through e' (congrArg (· + 1) hinner), hleaves]
    exact congrArg (leave j.passes.reverse) hrun

theorem errors (h : j.Goes e deciders params s r) {i : Nat} {error : SearchError}
    (herror : (leave (j.passes.drop i).reverse (j.back, j.returning)).1 = .error error)
    (hkeeps : ∀ k < i, ∀ d pass, deciders[k]? = some d → d.Makes pass → pass.Keeps error) :
    r.1 = .error error := by
  have hreverse : j.passes.reverse = (j.passes.drop i).reverse ++ (j.passes.take i).reverse := by
    rw [← List.reverse_append, List.take_append_drop]
  rw [h.leaves, hreverse, leave_append]
  refine leave_error (fun pass hpass => ?_) herror
  obtain ⟨k, hk⟩ := List.mem_iff_getElem?.mp (List.mem_reverse.mp hpass)
  rw [List.getElem?_take] at hk
  split at hk
  · rename_i hlt
    obtain ⟨d, hd, hmakes⟩ := h.exists_makes hk
    exact hkeeps k hlt d pass hd hmakes
  · cases hk

theorem page (h : j.Goes e deciders params s r) (hothers : j.others = [])
    (hkeeps : ∀ d ∈ deciders, ∀ pass, d.Makes pass → pass.KeepsPages) {page : Page}
    (hpage : r.1 = .ok page) : page.params = j.turned := by
  have hturns := h.turns
  rw [hothers] at hturns
  have hpasses := h.forall_passes hkeeps
  rw [h.leaves] at hpage
  have hback : j.back = .ok page :=
    leave_ok (fun pass hpass => hpasses pass (List.mem_reverse.mp hpass)) hpage
  rw [hback] at hturns
  cases hturns with
  | engine hrun => exact Engine.params_of_execute hrun

theorem sends (h : j.Goes e deciders params s r) (hothers : j.others = []) :
    j.reached.Sends (· = (e.method, j.turned.encode)) j.returning := by
  have hturns := h.turns
  rw [hothers] at hturns
  cases hturns with
  | engine hrun =>
    have hsends := e.sendsOnly_execute j.turned j.reached
    rw [hrun] at hsends
    exact hsends.mono fun _ hr => hr.2

theorem requests (h : j.Goes e deciders params s r)
    (hnothing : ∀ d ∈ deciders, d.SendsNothing) :
    (j.others = [] → s.Sends (· = (e.method, j.turned.encode)) r.2) ∧
      (j.others ≠ [] → Happening.exchanges r.2.trace = Happening.exchanges s.trace) := by
  have hmem : ∀ d ∈ j.passed ++ j.others, d ∈ deciders := fun d hd => h.split ▸ hd
  have hin : s.Sends (fun _ => False) j.reached := h.enters.sends fun d hd =>
    (hnothing d (hmem d (List.mem_append_left _ hd))).enter
  have hout : j.returning.Sends (fun _ => False) r.2 := by
    rw [h.leaves]
    refine sends_leave (fun pass hpass result => ?_) j.back j.returning
    exact h.forall_passes (fun d hd => (hnothing d hd).finish) pass (List.mem_reverse.mp hpass)
      result
  refine ⟨fun hothers => ?_, fun hothers => ?_⟩
  · exact (hin.mono fun _ => False.elim).trans
      ((h.sends hothers).trans (hout.mono fun _ => False.elim))
  · obtain ⟨d, rest, hcons⟩ := List.exists_cons_of_ne_nil hothers
    have hturns := h.turns
    rw [hcons] at hturns
    cases hturns with
    | answer hanswer =>
      have hd : d ∈ j.others := hcons ▸ List.mem_cons_self
      have hsends := (hnothing d (hmem d (List.mem_append_right _ hd))).enter rest.length j.turned
        j.reached
      rw [hanswer] at hsends
      exact (hin.trans (hsends.trans hout)).exchanges_eq

theorem engine (h : j.Goes e deciders params s r)
    (hpass : ∀ d ∈ deciders, ∀ behind params s result s',
      (d behind params).run s ≠ (.answer result, s')) : j.others = [] := by
  cases hothers : j.others with
  | nil => rfl
  | cons d rest =>
    have hd : d ∈ deciders := by
      rw [h.split, hothers]
      exact List.mem_append_right _ List.mem_cons_self
    have hturns := h.turns
    rw [hothers] at hturns
    cases hturns with
    | answer hanswer => exact absurd hanswer (hpass d hd _ _ _ _ _)

theorem carries (h : j.Goes e deciders params s r) : j.Carries e deciders params s r where
  rewrites _ hrewrite := h.enters.seen_eq fun i d pass hd hmakes =>
    hrewrite i d pass (h.getElem?_of_passed hd) hmakes
  engine := h.engine
  unentered _ _ hothers e' _ hinner := h.unentered hothers e' hinner
  errors _ _ herror hkeeps := h.errors herror hkeeps
  page hothers hkeeps _ hpage := h.page hothers hkeeps hpage
  sends := h.sends
  requests := h.requests

end Goes

end Journey

/-- **Interceptors.** A search with valid parameters through interceptors that go the rest of the
way once at most enters them in the order in which they stand, runs the engine once if none of them
answers, and leaves them in the reverse order; and it carries along what it should. -/
theorem Client.search_journeys (e : Engine σ) (deciders : List (Decider σ)) (token : Cancellation)
    {params : Params} (hvalid : params.check = .ok ()) (s : Session σ) :
    ∃ j : Journey σ,
      j.Goes e deciders params (s.under token)
        (((⟨e, deciders.map Decider.interceptor⟩ : Client σ).searchWith token params).run s) ∧
      j.Carries e deciders params (s.under token)
        (((⟨e, deciders.map Decider.interceptor⟩ : Client σ).searchWith token params).run s) := by
  obtain ⟨j, hgoes⟩ := exists_goes e deciders params (s.under token)
  have hsearch :
      ((⟨e, deciders.map Decider.interceptor⟩ : Client σ).searchWith token params).run s =
        ((Next.through e (deciders.map Decider.interceptor)).run params).run (s.under token) :=
    run_searchWith_of_ok hvalid token s
  rw [← hsearch] at hgoes
  exact ⟨j, hgoes, hgoes.carries⟩

/-- An interceptor that changes the parameters and nothing else. -/
def Decider.rewriting (f : Params → Params) : Decider σ := fun _ params =>
  return .pass (f params) fun result => return result

theorem Decider.makes_rewriting {f : Params → Params} {pass : Pass σ}
    (h : (rewriting f).Makes pass) :
    pass.handed = f pass.seen ∧ pass.finish = fun result => return result := by
  obtain ⟨behind, s, s', hrun⟩ := h
  obtain ⟨hhanded, hfinish⟩ := Decision.pass.inj (congrArg Prod.fst hrun)
  exact ⟨hhanded.symm, hfinish.symm⟩

/-- Two interceptors, one that asks for fifty results at most and one that asks for other papers. -/
def capping : List (Decider Script) :=
  [.rewriting fun params => { params with maxResults := min params.maxResults 50 },
    .rewriting fun params => { params with query := "cat:cs.AI" }]

/-- Fifty of the other papers are asked for, as often as it takes. -/
theorem Client.search_journeys_capping :
    { Params.default with maxResults := 2000 }.check = .ok () ∧
      ∃ r : Result Page × Session Script,
        ((⟨Engine.patient, capping.map Decider.interceptor⟩ : Client Script).searchWith .fresh
          { Params.default with maxResults := 2000 }).run Engine.recovering = r ∧
        Engine.recovering.Sends
          (· = (.get, { Params.default with query := "cat:cs.AI", maxResults := 50 }.encode)) r.2 ∧
        ∀ page, r.1 = .ok page →
          page.params = { Params.default with query := "cat:cs.AI", maxResults := 50 } := by
  have hvalid : { Params.default with maxResults := 2000 }.check = .ok () := rfl
  obtain ⟨j, hgoes, hcarries⟩ :=
    search_journeys Engine.patient capping .fresh hvalid Engine.recovering
  have hrewriting : ∀ d ∈ capping, ∃ f, d = .rewriting f := by
    intro d hd
    rcases List.mem_cons.mp hd with rfl | hd
    · exact ⟨_, rfl⟩
    · exact ⟨_, List.mem_singleton.mp hd⟩
  have hothers : j.others = [] := by
    refine hcarries.engine fun d hd behind params s result s' hanswer => ?_
    obtain ⟨f, rfl⟩ := hrewriting d hd
    cases hanswer
  have hlength : j.passes.length = 2 := by
    have hsplit := congrArg List.length hgoes.split
    rw [hothers, List.append_nil] at hsplit
    exact hgoes.enters.length_eq.trans hsplit.symm
  have hturned : j.turned = { Params.default with query := "cat:cs.AI", maxResults := 50 } := by
    obtain ⟨-, hlast⟩ := hcarries.rewrites
      (fun i params => if i = 0 then { params with maxResults := min params.maxResults 50 }
        else { params with query := "cat:cs.AI" })
      fun i d pass hd hmakes => by
        obtain _ | _ | i := i
        · cases hd
          exact (Decider.makes_rewriting hmakes).1
        · cases hd
          exact (Decider.makes_rewriting hmakes).1
        · cases hd
    rw [hlast, hlength]
    rfl
  have hnothing : ∀ d ∈ capping, d.SendsNothing := by
    intro d hd
    obtain ⟨f, rfl⟩ := hrewriting d hd
    refine ⟨fun _ _ => .pure _, fun pass hmakes result => ?_⟩
    rw [(Decider.makes_rewriting hmakes).2]
    exact .pure _
  have hkeeps : ∀ d ∈ capping, ∀ pass, d.Makes pass → pass.KeepsPages := by
    intro d hd pass hmakes
    obtain ⟨f, rfl⟩ := hrewriting d hd
    intro result s page hpage
    rw [(Decider.makes_rewriting hmakes).2] at hpage
    exact hpage
  refine ⟨hvalid, _, rfl, ?_, ?_⟩
  · rw [← hturned]
    exact (hcarries.requests hnothing).1 hothers
  · rw [← hturned]
    exact hcarries.page hothers hkeeps

end PaperSearch
