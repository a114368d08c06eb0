import PaperSearch.Client.Basic
import PaperSearch.Proofs.Client.Cancelling

/-!
# Cancelling through interceptors

An interceptor that relays goes the rest of the way at least once, and hands back what came of it
the last time (`Interceptor.Relays`). It may change the parameters to other valid ones, let time
pass, and fire the token itself. A search through such interceptors is one run of the engine, or
some one after another (`relayed_through`), and the token stops each of them
(`Client.stops_search`).
-/

namespace PaperSearch

open Time

variable {σ α : Type}

namespace Session

/-- The session with another token. -/
def under (s : Session σ) (token : Cancellation) : Session σ :=
  { s with token }

/-- What may happen between two runs of the engine: anything but an exchange. -/
structure Idles (s s' : Session σ) : Prop where
  timer : s.timer ≤ s'.timer
  token : s'.token = s.token ∨ s'.token = s.token.fire
  times : Happening.exchangeTimes s'.trace = Happening.exchangeTimes s.trace

namespace Idles

variable {s s' s'' : Session σ}

theorem refl (s : Session σ) : s.Idles s :=
  ⟨Nat.le_refl _, Or.inl rfl, rfl⟩

theorem trans (h : s.Idles s') (h' : s'.Idles s'') : s.Idles s'' where
  timer := Nat.le_trans h.timer h'.timer
  token := by
    rcases h.token with htoken | htoken
    · rw [← htoken]
      exact h'.token
    · rcases h'.token with htoken' | htoken'
      · exact Or.inr (htoken'.trans htoken)
      · rw [htoken] at htoken'
        exact Or.inr htoken'
  times := h'.times.trans h.times

theorem see (s : Session σ) {h : Happening} (hh : Happening.exchangeTimes [h] = []) :
    s.Idles (s.see h) where
  timer := Nat.le_refl _
  token := Or.inl rfl
  times := by
    have htimes := Happening.exchangeTimes_append s.trace [h]
    rw [hh, List.append_nil] at htimes
    exact htimes

/-- A token does not unfire. -/
theorem isFired (h : s.Idles s') {time : Nat} (hfired : s.token.isFired time = true) :
    s'.token.isFired time = true := by
  rcases h.token with htoken | htoken
  · rw [htoken]
    exact hfired
  · rw [htoken]
    rfl

theorem unfired (h : s.Idles s') {time : Nat} (hunfired : s'.token.isFired time = false) :
    s.token.isFired time = false := by
  apply Bool.eq_false_iff.mpr
  intro hfired
  rw [h.isFired hfired] at hunfired
  cases hunfired

theorem firedBefore (h : s.Idles s') {time : Nat} (hfired : s.token.FiredBefore time) :
    s'.token.FiredBefore time := by
  rcases h.token with htoken | htoken
  · rw [htoken]
    exact hfired
  · rw [htoken]
    exact Or.inl rfl

end Idles

end Session

/-- Some runs one after another, with something else around them; what the last one gives is what
comes of them. -/
inductive Relayed (Run : Session σ → α → Session σ → Prop) : Session σ → α → Session σ → Prop
  | last {s s₁ s₂ s' : Session σ} {a : α} (before : s.Idles s₁) (run : Run s₁ a s₂)
      (after : s₂.Idles s') : Relayed Run s a s'
  | again {s s₁ s₂ s' : Session σ} {a b : α} (before : s.Idles s₁) (run : Run s₁ b s₂)
      (rest : Relayed Run s₂ a s') : Relayed Run s a s'

namespace Relayed

variable {Run Run' : Session σ → α → Session σ → Prop} {s s₁ s' : Session σ} {a b : α}

theorem mono (h : Relayed Run s a s') (hrun : ∀ s₁ b s₂, Run s₁ b s₂ → Run' s₁ b s₂) :
    Relayed Run' s a s' := by
  induction h with
  | last before run after => exact .last before (hrun _ _ _ run) after
  | again before run _ ih => exact .again before (hrun _ _ _ run) ih

theorem idle_before (before : s.Idles s₁) (h : Relayed Run s₁ a s') : Relayed Run s a s' := by
  cases h with
  | last before' run after => exact .last (before.trans before') run after
  | again before' run rest => exact .again (before.trans before') run rest

theorem idle_after (h : Relayed Run s a s₁) (after : s₁.Idles s') : Relayed Run s a s' := by
  induction h with
  | last before run after' => exact .last before run (after'.trans after)
  | again before run _ ih => exact .again before run (ih after)

theorem append (h : Relayed Run s b s₁) (h' : Relayed Run s₁ a s') : Relayed Run s a s' := by
  induction h with
  | last before run after => exact .again before run (idle_before after h')
  | again before run _ ih => exact .again before run (ih h')

/-- Runs that are relayed themselves are taken apart. -/
theorem flatten (h : Relayed (Relayed Run) s a s') : Relayed Run s a s' := by
  induction h with
  | last before run after => exact idle_before before (idle_after run after)
  | again before run _ ih => exact idle_before before (append run ih)

end Relayed

/-! ## Interceptors that relay -/

/-- A run of the rest of the way with valid parameters. -/
def Next.Runs (next : Next σ) (s : Session σ) (result : Result Page) (s' : Session σ) : Prop :=
  ∃ params : Params, params.check = .ok () ∧ (next.run params).run s = (result, s')

/-- An interceptor goes the rest of the way and hands its result back. -/
def Interceptor.Relays (i : Interceptor σ) : Prop :=
  ∀ (params : Params) (next : Next σ) (s : Session σ), params.check = .ok () →
    Relayed next.Runs s ((i params next).run s).1 ((i params next).run s).2

theorem relays_logging : Interceptor.Relays (logging : Interceptor σ) := by
  intro params next s hvalid
  rcases hrun : (next.run params).run (s.see (.event ⟨.debug, "Search started",
    [("query", .text params.query), ("start", .number params.start.toNat)] ++
      [("max_results", .number params.maxResults.toNat)]⟩)) with ⟨result, s'⟩
  unfold logging
  simp only [Search.run_bind, Search.run_report, hrun]
  cases result with
  | ok page => exact .last (.see s rfl) ⟨params, hvalid, hrun⟩ (.see s' rfl)
  | error error => exact .last (.see s rfl) ⟨params, hvalid, hrun⟩ (.see s' rfl)

theorem relays_hooks (hooks : Hooks) : Interceptor.Relays (hooks.interceptor : Interceptor σ) := by
  intro params next s hvalid
  obtain ⟨onRequest, onResponse⟩ := hooks
  cases onRequest with
  | none =>
    cases onResponse with
    | none => exact .last (.refl s) ⟨params, hvalid, rfl⟩ (.refl _)
    | some hook => exact .last (.refl s) ⟨params, hvalid, rfl⟩ (.see _ rfl)
  | some request =>
    cases onResponse with
    | none => exact .last (.see s rfl) ⟨params, hvalid, rfl⟩ (.refl _)
    | some hook => exact .last (.see s rfl) ⟨params, hvalid, rfl⟩ (.see _ rfl)

/-- A search through interceptors that relay comes down to runs of the engine. -/
theorem relayed_through (e : Engine σ) {interceptors : List (Interceptor σ)}
    (hrelays : ∀ i ∈ interceptors, Interceptor.Relays i) {params : Params}
    (hvalid : params.check = .ok ()) (s : Session σ) :
    Relayed (Next.Runs ⟨0, e.execute⟩) s
      (((Next.through e interceptors).run params).run s).1
      (((Next.through e interceptors).run params).run s).2 := by
  induction interceptors generalizing params s with
  | nil => exact .last (.refl s) ⟨params, hvalid, rfl⟩ (.refl _)
  | cons i rest ih =>
    refine (Relayed.mono (hrelays i (List.mem_cons_self ..) params (Next.through e rest) s hvalid)
      ?_).flatten
    rintro s₁ result s₂ ⟨params', hvalid', hrun⟩
    have hrest := ih (fun j hj => hrelays j (List.mem_cons_of_mem i hj)) hvalid' s₁
    rw [hrun] at hrest
    exact hrest

/-! ## Clients -/

/-- A run of the engine with valid parameters, and what the token does to it. -/
def Engine.StoppedRun (e : Engine σ) (s : Session σ) (result : Result Page) (s' : Session σ) :
    Prop :=
  ∃ params : Params, params.check = .ok () ∧ (e.execute params).run s = (result, s') ∧
    e.Stops params.encode s (result, s') ((e.execute params).run s.freed)

/-- What a token does to a search through interceptors, `result` being what the search gives and
`s'` what it leaves. -/
structure Engine.StopsRelayed (e : Engine σ) (s : Session σ) (result : Result Page)
    (s' : Session σ) : Prop where
  /-- The token stops every run of the engine that the search comes down to. -/
  relayed : Relayed e.StoppedRun s result s'
  /-- If the token has fired before the search, then it is cancelled with no exchange at all. -/
  before : s.token.isFired s.timer = true → result = .error .cancelled ∧
    Happening.exchangeTimes s'.trace = Happening.exchangeTimes s.trace
  /-- No exchange is begun after the token has fired. -/
  exchanges : ∃ begun, Happening.exchangeTimes s'.trace =
    Happening.exchangeTimes s.trace ++ begun ∧ ∀ time ∈ begun, s.token.isFired time = false
  /-- If the search is not cancelled, then the token fires when the last outcome of an exchange is
  taken, at the earliest. -/
  taken : result ≠ .error .cancelled → ∃ (params : Params) (outcome : Outcome) (s₁ : Session σ),
    e.Took params.encode outcome s₁ ∧ ¬ s.token.FiredBefore s₁.timer ∧ s₁.Idles s'

/-- What holds of the runs of the engine holds of the search that comes down to them. -/
theorem Engine.stopsRelayed {e : Engine σ} {s s' : Session σ} {result : Result Page}
    (h : Relayed e.StoppedRun s result s') : e.StopsRelayed s result s' := by
  induction h with
  | @last s s₁ s₂ s' result before run after =>
    refine ⟨.last before run after, ?_, ?_, ?_⟩
    all_goals obtain ⟨params, -, -, hstops⟩ := run
    · intro hfired
      have hfired₁ := Cancellation.isFired_of_le (before.isFired hfired) before.timer
      obtain ⟨hresult, rfl⟩ := Prod.mk.inj (hstops.before hfired₁)
      exact ⟨hresult, after.times.trans before.times⟩
    · obtain ⟨begun, htimes, hunfired⟩ := hstops.exchanges
      rw [before.times] at htimes
      exact ⟨begun, after.times.trans htimes,
        fun time htime => before.unfired (hunfired time htime)⟩
    · intro hne
      obtain ⟨outcome, htook⟩ := hstops.taken hne
      exact ⟨params, outcome, s₂, htook,
        fun hfired => hne (hstops.during (before.firedBefore hfired)), after⟩
  | @again s s₁ s₂ s' result _ before run rest ih =>
    refine ⟨.again before run rest, ?_, ?_, ?_⟩
    all_goals obtain ⟨params, -, -, hstops⟩ := run
    · intro hfired
      -- the first run does nothing, so that the token has fired before the others too
      have hfired₁ := Cancellation.isFired_of_le (before.isFired hfired) before.timer
      obtain ⟨-, rfl⟩ := Prod.mk.inj (hstops.before hfired₁)
      obtain ⟨hresult, htimes⟩ := ih.before hfired₁
      exact ⟨hresult, htimes.trans before.times⟩
    · obtain ⟨begun, htimes, hunfired⟩ := hstops.exchanges
      obtain ⟨begun', htimes', hunfired'⟩ := ih.exchanges
      rw [htimes, before.times, List.append_assoc] at htimes'
      rw [hstops.token] at hunfired'
      refine ⟨begun ++ begun', htimes', fun time htime => ?_⟩
      rcases List.mem_append.mp htime with hmem | hmem
      · exact before.unfired (hunfired time hmem)
      · exact before.unfired (hunfired' time hmem)
    · intro hne
      obtain ⟨params, outcome, s₃, htook, hunfired, hafter⟩ := ih.taken hne
      rw [hstops.token] at hunfired
      exact ⟨params, outcome, s₃, htook,
        fun hfired => hunfired (before.firedBefore hfired), hafter⟩

/-- What a token does to a search of a client whose interceptors relay. -/
theorem Client.stopsRelayed {c : Client σ} {params : Params} (hvalid : params.check = .ok ())
    (hrelays : ∀ i ∈ c.interceptors, Interceptor.Relays i) (token : Cancellation)
    (s : Session σ) :
    c.engine.StopsRelayed (s.under token) ((c.searchWith token params).run s).1
      ((c.searchWith token params).run s).2 := by
  refine Engine.stopsRelayed ?_
  have hsearch : (c.searchWith token params).run s =
      ((Next.through c.engine c.interceptors).run params).run (s.under token) := by
    unfold Client.searchWith
    rw [hvalid]
    rfl
  rw [hsearch]
  refine (relayed_through c.engine hrelays hvalid (s.under token)).mono ?_
  rintro s₁ result s₂ ⟨params', hvalid', hrun⟩
  have hstops := c.engine.stops_execute hvalid' s₁
  have hrun' : (c.engine.execute params').run s₁ = (result, s₂) := hrun
  rw [hrun'] at hstops
  exact ⟨params', hvalid', hrun', hstops⟩

/-- **Cancellation.** A token stops a search that goes past the interceptors, and one that goes
through interceptors that relay: what is cancelled before the outcome of an exchange is taken, or
before another attempt, gives nothing else than that, and sends nothing more. -/
theorem Client.stops (c : Client σ) (token : Cancellation) (params : Params) (s : Session σ)
    (hvalid : params.check = .ok ()) (hrelays : ∀ i ∈ c.interceptors, Interceptor.Relays i) :
    c.engine.Stops params.encode (s.under token) ((c.rawSearch token params).run s)
        ((c.rawSearch .fresh params).run s) ∧
      c.engine.StopsRelayed (s.under token) ((c.searchWith token params).run s).1
        ((c.searchWith token params).run s).2 :=
  ⟨c.engine.stops_rawSearch hvalid (s.under token), stopsRelayed hvalid hrelays token s⟩

/-- A client that waits two seconds for each outcome, and reports its searches. -/
def sluggish : Client Script where
  engine := { Engine.patient with
    transport := { Script.transport with duration := fun _ _ _ => .ofSeconds 2 } }
  interceptors := [logging]

/-- A token that fires after a second is in time. -/
theorem Client.stops_sluggish :
    (Params.default.check = .ok () ∧ ∀ i ∈ sluggish.interceptors, Interceptor.Relays i) ∧
      ((sluggish.rawSearch (.firingAt 1000000000) .default).run Engine.recovering).1 =
        .error .cancelled ∧
      ((sluggish.searchWith (.firingAt 1000000000) .default).run Engine.recovering).1 =
        .error .cancelled := by
  have hrelays : ∀ i ∈ sluggish.interceptors, Interceptor.Relays i := by
    intro i hi
    obtain rfl : i = logging := List.mem_singleton.mp hi
    exact relays_logging
  -- no outcome is there before two seconds are over
  have hfires : ∀ {encoded : String} {outcome : Outcome} {s : Session Script},
      sluggish.engine.Took encoded outcome s →
        (Cancellation.firingAt 1000000000).FiredBefore s.timer := by
    rintro encoded outcome s ⟨started, server, -, -, htimer, -⟩
    refine Or.inr ⟨1000000000, rfl, ?_⟩
    have hduration : s.timer = started + 2 * 1000000000 := htimer
    omega
  obtain ⟨hraw, hsearch⟩ := Client.stops sluggish (.firingAt 1000000000) .default
    Engine.recovering rfl hrelays
  refine ⟨⟨rfl, hrelays⟩, ?_, ?_⟩
  · apply Classical.byContradiction
    intro hne
    obtain ⟨outcome, htook⟩ := hraw.taken hne
    exact hne (hraw.during (hfires htook))
  · apply Classical.byContradiction
    intro hne
    obtain ⟨params, outcome, s₁, htook, hunfired, -⟩ := hsearch.taken hne
    exact hunfired (hfires htook)

end PaperSearch
