import PaperSearch.Proofs.Client.Draining
import PaperSearch.Proofs.Client.Passing
import PaperSearch.Proofs.Client.Stores

/-!
# Searches that share a cache

Any number of searches may be under way that come to one caching interceptor, from one client or
from several. What the interceptor does with a search is two steps, the look-up on its way in and
the store on its way out (`Decider.caching`). A page that cannot be kept is not stored, but room is
made for it (`Cache.storing`). Between the two steps the search goes the rest of its way, and others
come and go, time passes and the cache is cleared, in any order (`Sharing.Step`). One search alone,
as the interceptor runs it, is such a run (`Sharing.runs_caching`).

`Sharing.Sound` is what every step preserves (`Step.sound`). `cache_safe` draws from it what the
searches can rely on.
-/

namespace PaperSearch

variable {σ : Type}

open Cache (Deed LastStored)

/-! ## The two steps of a caching interceptor -/

namespace Session

/-- The session in which a cache is another one. -/
def setCache (s : Session σ) (place : Nat) (c : Cache) : Session σ :=
  { s with caches := fun i => if i = place then c else s.caches i }

@[simp] theorem caches_setCache (s : Session σ) (place : Nat) (c : Cache) :
    (s.setCache place c).caches place = c :=
  if_pos rfl

end Session

/-- What a caching interceptor does with the result that comes back to it. -/
def keepPage (place : Nat) (key : String) : Result Page → Search σ (Result Page)
  | .error e => return .error e
  | .ok page => do
    if ← storePage place key page then return .ok page else Search.breakOff

/-- A search that comes to a caching interceptor is answered with the page that is found, or else
passed on as it is. -/
theorem Decider.run_caching (place behind : Nat) (params : Params) (s : Session σ) :
    (Decider.caching place behind params).run s =
      match (s.caches place).lookup params.cacheKey s.clock with
      | (some page, c) =>
        (.answer (.ok page), (s.setCache place c).see
          (.event ⟨.debug, "Cache hit for query: " ++ params.query, []⟩))
      | (none, c) => (.pass params (keepPage place params.cacheKey), s.setCache place c) := by
  have hlookup : (lookupPage place params.cacheKey).run s =
      (((s.caches place).lookup params.cacheKey s.clock).1,
        s.setCache place ((s.caches place).lookup params.cacheKey s.clock).2) := rfl
  unfold caching
  rw [Search.run_bind, hlookup]
  rcases (s.caches place).lookup params.cacheKey s.clock with ⟨_ | page, c⟩
  · rfl
  · rfl

/-- What is done to a cache when a result comes back: a page is stored if it can be kept, an error
is not. -/
def Cache.storing (c : Cache) (key : String) (inner : Result Page) (time : Nat) : List Deed :=
  match inner with
  | .error _ => []
  | .ok page => if c.canStore time then [.store key page time] else [.makeRoom time]

theorem run_storePage (place : Nat) (key : String) (page : Page) (s : Session σ) :
    (storePage place key page).run s = (((s.caches place).keep key page s.clock).1,
      s.setCache place ((s.caches place).keep key page s.clock).2) :=
  rfl

theorem run_keepPage_ok {place : Nat} {s : Session σ}
    (h : (s.caches place).canStore s.clock = true) (key : String) (page : Page) :
    (keepPage place key (.ok page)).run s =
      (.ok page, s.setCache place ((s.caches place).store key page s.clock)) := by
  unfold keepPage
  rw [Search.run_bind, run_storePage, Cache.keep_of_canStore h]
  rfl

theorem run_keepPage_overflow {place : Nat} {s : Session σ}
    (h : (s.caches place).canStore s.clock = false) (key : String) (page : Page) :
    (keepPage place key (.ok page)).run s =
      (.error .overflow, (s.setCache place ((s.caches place).makeRoom s.clock)).see .overflow) := by
  unfold keepPage
  rw [Search.run_bind, run_storePage, Cache.keep_of_not_canStore h]
  rfl

/-- Whatever comes back, it is put to the cache so, at once, and no request is sent. -/
theorem run_keepPage (place : Nat) (key : String) (inner : Result Page) (s : Session σ) :
    (((keepPage place key inner).run s).2.caches place =
        (s.caches place).replay ((s.caches place).storing key inner s.clock)) ∧
      ((keepPage place key inner).run s).2.clock = s.clock ∧
      Happening.exchanges ((keepPage place key inner).run s).2.trace =
        Happening.exchanges s.trace := by
  cases inner with
  | error e => exact ⟨rfl, rfl, rfl⟩
  | ok page =>
    cases hcan : (s.caches place).canStore s.clock with
    | true =>
      rw [run_keepPage_ok hcan, Cache.storing, if_pos hcan]
      exact ⟨Session.caches_setCache .., rfl, rfl⟩
    | false =>
      rw [run_keepPage_overflow hcan, Cache.storing, if_neg (Bool.eq_false_iff.mp hcan)]
      refine ⟨Session.caches_setCache .., rfl, ?_⟩
      exact (Happening.exchanges_append s.trace [.overflow]).trans (List.append_nil _)

theorem Decider.eq_of_makes_caching {place : Nat} {pass : Pass σ}
    (h : (Decider.caching place).Makes pass) :
    pass.handed = pass.seen ∧ pass.finish = keepPage place pass.seen.cacheKey := by
  obtain ⟨behind, s, s', hrun⟩ := h
  rw [run_caching] at hrun
  split at hrun
  · cases hrun
  · obtain ⟨hhanded, hfinish⟩ := Decision.pass.inj (congrArg Prod.fst hrun)
    exact ⟨hhanded.symm, hfinish.symm⟩

/-! ## Searches under way -/

/-- How far a search is that has come to the interceptor. -/
inductive Stage (σ : Type) where
  /-- It was answered by the interceptor. -/
  | answered (result : Result Page)
  /-- It goes the rest of its way. -/
  | inside (pass : Pass σ)
  /-- The rest of its way has given this result. -/
  | back (pass : Pass σ) (inner : Result Page)
  | left (pass : Pass σ) (inner result : Result Page)

namespace Stage

/-- Where a search is that the interceptor has just decided about. -/
def ofDecision (params : Params) : Decision σ → Stage σ
  | .answer result => answered result
  | .pass handed finish => inside ⟨params, handed, finish⟩

/-- What the search gives, once it is known. -/
def result? : Stage σ → Option (Result Page)
  | answered result => some result
  | left _ _ result => some result
  | _ => none

/-- The pass of a search that has not been answered. -/
def pass? : Stage σ → Option (Pass σ)
  | answered _ => none
  | inside pass => some pass
  | back pass _ => some pass
  | left pass _ _ => some pass

end Stage

/-- A search that has come to the interceptor. -/
structure Visit (σ : Type) where
  params : Params
  stage : Stage σ
  /-- The requests that were sent in its steps. -/
  sent : List (Method × String)

/-- A session, and the searches in it that have come to the interceptor. -/
structure Sharing (σ : Type) where
  session : Session σ
  visits : List (Visit σ)

/-- Anything may have changed but the cache, and the clock has not gone back. -/
structure Session.Spares (place : Nat) (s s' : Session σ) : Prop where
  cache : s'.caches place = s.caches place
  clock : s.clock ≤ s'.clock

/-- Requests that one session has seen after another. -/
def Session.Adds (s s' : Session σ) (sent : List (Method × String)) : Prop :=
  Happening.exchanges s'.trace = Happening.exchanges s.trace ++ sent

/-- The rest of the way leaves the cache alone, and time does not go back on it. -/
def Next.Spares (place : Nat) (next : Next σ) : Prop :=
  ∀ params (s : Session σ), s.Spares place ((next.run params).run s).2 ∧
    ∃ sent, s.Adds ((next.run params).run s).2 sent

namespace Cache

variable {c : Cache} {key key' : String} {inner : Result Page} {page : Page} {now time : Nat}

/-- Only a page that comes back is stored. -/
theorem eq_of_mem_storing (h : .store key page time ∈ c.storing key' inner now) :
    inner = .ok page ∧ key = key' := by
  unfold storing at h
  split at h
  · exact absurd h List.not_mem_nil
  · split at h
    · cases List.mem_singleton.mp h
      exact ⟨rfl, rfl⟩
    · cases List.mem_singleton.mp h

theorem Holds.storing {deeds : List Deed} (h : c.Holds deeds now) (key : String)
    (inner : Result Page) :
    (c.replay (c.storing key inner now)).Holds (deeds ++ c.storing key inner now) now := by
  unfold Cache.storing
  split
  · rw [List.append_nil]
    exact h
  · split
    · exact h.store key _
    · exact h.makeRoom now

end Cache

namespace Sharing

/-- A step of the searches that share a cache, with what it does to the cache. -/
inductive Step (place : Nat) : Sharing σ → List Deed → Sharing σ → Prop
  /-- A search comes, and is answered or passed on. -/
  | arrive {w : Sharing σ} {params : Params} {behind : Nat} {decision : Decision σ}
      {s' : Session σ} {sent : List (Method × String)}
      (h : (Decider.caching place behind params).run w.session = (decision, s'))
      (hsent : w.session.Adds s' sent) :
      Step place w [.lookup params.cacheKey w.session.clock]
        ⟨s', w.visits ++ [⟨params, .ofDecision params decision, sent⟩]⟩
  /-- A search that was passed on goes on, whatever it does on its way. -/
  | proceed {w : Sharing σ} {i : Nat} {visit : Visit σ} {pass : Pass σ} {s' : Session σ}
      {sent : List (Method × String)} (hvisit : w.visits[i]? = some visit)
      (hstage : visit.stage = .inside pass) (hspares : w.session.Spares place s')
      (hsent : w.session.Adds s' sent) :
      Step place w [] ⟨s', w.visits.set i { visit with sent := visit.sent ++ sent }⟩
  /-- The rest of its way gives a result. -/
  | turn {w : Sharing σ} {i : Nat} {visit : Visit σ} {pass : Pass σ} (inner : Result Page)
      (hvisit : w.visits[i]? = some visit) (hstage : visit.stage = .inside pass) :
      Step place w [] ⟨w.session, w.visits.set i { visit with stage := .back pass inner }⟩
  /-- A search is left with what the interceptor makes of that. -/
  | leave {w : Sharing σ} {i : Nat} {visit : Visit σ} {pass : Pass σ} {inner result : Result Page}
      {s' : Session σ} {sent : List (Method × String)} (hvisit : w.visits[i]? = some visit)
      (hstage : visit.stage = .back pass inner)
      (h : (pass.finish inner).run w.session = (result, s')) (hsent : w.session.Adds s' sent) :
      Step place w
        ((w.session.caches place).storing visit.params.cacheKey inner w.session.clock)
        ⟨s', w.visits.set i
          { visit with stage := .left pass inner result, sent := visit.sent ++ sent }⟩
  | clear {w : Sharing σ} :
      Step place w [.clear]
        ⟨w.session.setCache place (w.session.caches place).clear, w.visits⟩
  /-- Something else happens. -/
  | meanwhile {w : Sharing σ} {s' : Session σ} (hspares : w.session.Spares place s') :
      Step place w [] ⟨s', w.visits⟩

/-- Steps one after another, with what they do to the cache. -/
inductive Runs (place : Nat) (w : Sharing σ) : List Deed → Sharing σ → Prop
  | start : Runs place w [] w
  | step {deeds more : List Deed} {w₁ w₂ : Sharing σ} (h : Runs place w deeds w₁)
      (hstep : Step place w₁ more w₂) : Runs place w (deeds ++ more) w₂

/-! ## The invariant -/

/-- A page is earned by a search whose way gave it, and whose parameters have that key. -/
def Earned (visits : List (Visit σ)) (key : String) (page : Page) : Prop :=
  ∃ visit ∈ visits, ∃ pass result, visit.stage = .left pass (.ok page) result ∧
    pass.handed.cacheKey = key

/-- What holds of each search that has come to the interceptor. -/
structure SoundVisit (place : Nat) (visit : Visit σ) : Prop where
  pass : ∀ pass, visit.stage.pass? = some pass →
    pass.seen = visit.params ∧ (Decider.caching place).Makes pass
  /-- A search that is answered from the cache sends nothing. -/
  unsent : ∀ result, visit.stage = .answered result → visit.sent = []

/-- What holds when some deeds have been done to the cache. -/
structure Sound (place : Nat) (first : Cache) (deeds : List Deed) (w : Sharing σ) : Prop where
  cache : w.session.caches place = first.replay deeds
  holds : (w.session.caches place).Holds deeds w.session.clock
  visits : ∀ visit ∈ w.visits, SoundVisit place visit
  earned : ∀ key page time, .store key page time ∈ deeds → Earned w.visits key page

theorem Earned.append {visits : List (Visit σ)} {key : String} {page : Page}
    (h : Earned visits key page) (visit : Visit σ) : Earned (visits ++ [visit]) key page := by
  obtain ⟨v, hv, hearned⟩ := h
  exact ⟨v, List.mem_append_left _ hv, hearned⟩

/-- A search that has not been left has earned nothing. -/
theorem Earned.set {visits : List (Visit σ)} {key : String} {page : Page}
    (h : Earned visits key page) {i : Nat} {visit : Visit σ} {stage : Stage σ}
    (hvisit : visits[i]? = some visit) (hstage : visit.stage = stage)
    (hleft : ∀ pass inner result, stage ≠ .left pass inner result) (visit' : Visit σ) :
    Earned (visits.set i visit') key page := by
  obtain ⟨v, hv, pass, result, hthere, hkey⟩ := h
  obtain ⟨j, hj⟩ := List.mem_iff_getElem?.mp hv
  have hne : i ≠ j := by
    rintro rfl
    rw [hvisit] at hj
    cases hj
    exact hleft _ _ _ (hstage.symm.trans hthere)
  refine ⟨v, List.mem_of_getElem? (i := j) ?_, pass, result, hthere, hkey⟩
  rw [List.getElem?_set_ne hne, hj]

/-- One search has come further, the others are where they were. -/
theorem sound_set {place : Nat} {visits : List (Visit σ)}
    (h : ∀ visit ∈ visits, SoundVisit place visit) (i : Nat) {visit : Visit σ}
    (hvisit : SoundVisit place visit) : ∀ v ∈ visits.set i visit, SoundVisit place v := by
  intro v hv
  rcases List.mem_or_eq_of_mem_set hv with hv | rfl
  · exact h v hv
  · exact hvisit

/-- A search that was passed on stays one when it has come further. -/
theorem SoundVisit.further {place : Nat} {visit : Visit σ} (h : SoundVisit place visit)
    {stage : Stage σ} {pass : Pass σ} (hstage : visit.stage = stage)
    (hpass : stage.pass? = some pass) (stage' : Stage σ) (hpass' : stage'.pass? = some pass)
    (sent : List (Method × String)) : SoundVisit place ⟨visit.params, stage', sent⟩ := by
  refine ⟨fun other hother => ?_, fun result hanswered => ?_⟩
  · have heq : some other = some pass := hother.symm.trans hpass'
    rw [Option.some.inj heq]
    exact h.pass pass (hstage ▸ hpass)
  · have hnone : stage' = .answered result := hanswered
    rw [hnone] at hpass'
    cases hpass'

section Step

variable {place : Nat} {first : Cache} {deeds more : List Deed} {w w' : Sharing σ}

theorem Sound.arrive (h : Sound place first deeds w) {params : Params} {behind : Nat}
    {decision : Decision σ} {s' : Session σ} {sent : List (Method × String)}
    (hrun : (Decider.caching place behind params).run w.session = (decision, s'))
    (hsent : w.session.Adds s' sent) :
    Sound place first (deeds ++ [.lookup params.cacheKey w.session.clock])
      ⟨s', w.visits ++ [⟨params, .ofDecision params decision, sent⟩]⟩ := by
  -- the session after the look-up, whatever was found
  have hafter : s'.caches place =
        ((w.session.caches place).lookup params.cacheKey w.session.clock).2 ∧
      s'.clock = w.session.clock ∧
      SoundVisit place ⟨params, .ofDecision params decision, sent⟩ := by
    have hmakes := hrun
    rw [Decider.run_caching] at hrun
    rcases hlookup : (w.session.caches place).lookup params.cacheKey w.session.clock with
      ⟨_ | page, c⟩
    · rw [hlookup] at hrun
      cases hrun
      refine ⟨Session.caches_setCache .., rfl, fun pass hpass => ?_, fun _ => nofun⟩
      cases hpass
      exact ⟨rfl, _, _, _, hmakes⟩
    · rw [hlookup] at hrun
      cases hrun
      refine ⟨Session.caches_setCache .., rfl, fun _ => nofun, fun result _ => ?_⟩
      have hnothing : Happening.exchanges (w.session.trace ++ [.event _]) =
          Happening.exchanges w.session.trace ++ sent := hsent
      rw [Happening.exchanges_append] at hnothing
      exact (List.append_cancel_left hnothing).symm
  obtain ⟨hcaches, hclock, hvisit⟩ := hafter
  refine ⟨?_, ?_, ?_, fun key page time hstore => ?_⟩
  · rw [hcaches, Cache.replay_append, ← h.cache]
    rfl
  · show (s'.caches place).Holds _ s'.clock
    rw [hcaches, hclock]
    exact h.holds.lookup _ _
  · intro visit hmem
    rcases List.mem_append.mp hmem with hmem | hmem
    · exact h.visits visit hmem
    · rw [List.mem_singleton.mp hmem]
      exact hvisit
  · rcases List.mem_append.mp hstore with hstore | hstore
    · exact (h.earned key page time hstore).append _
    · exact absurd (List.mem_singleton.mp hstore) nofun

/-- Nothing is done to the cache, and a search may come further. -/
theorem Sound.spares (h : Sound place first deeds w) {s' : Session σ}
    (hspares : w.session.Spares place s') {visits : List (Visit σ)}
    (hvisits : ∀ visit ∈ visits, SoundVisit place visit)
    (hearned : ∀ key page, Earned w.visits key page → Earned visits key page) :
    Sound place first deeds ⟨s', visits⟩ := by
  refine ⟨?_, ?_, hvisits, fun key page time hstore => hearned _ _ (h.earned key page time hstore)⟩
  · rw [hspares.cache]
    exact h.cache
  · show (s'.caches place).Holds deeds s'.clock
    rw [hspares.cache]
    exact h.holds.later hspares.clock

theorem Sound.leave (h : Sound place first deeds w) {i : Nat} {visit : Visit σ} {pass : Pass σ}
    {inner result : Result Page} {s' : Session σ} {sent : List (Method × String)}
    (hvisit : w.visits[i]? = some visit) (hstage : visit.stage = .back pass inner)
    (hrun : (pass.finish inner).run w.session = (result, s')) :
    Sound place first
      (deeds ++ (w.session.caches place).storing visit.params.cacheKey inner w.session.clock)
      ⟨s', w.visits.set i ⟨visit.params, .left pass inner result, sent⟩⟩ := by
  have hsound := h.visits visit (List.mem_of_getElem? hvisit)
  obtain ⟨hseen, hmakes⟩ := hsound.pass pass (by rw [hstage]; rfl)
  obtain ⟨hhanded, hfinish⟩ := Decider.eq_of_makes_caching hmakes
  obtain ⟨hcache, hclock, -⟩ := run_keepPage place visit.params.cacheKey inner w.session
  rw [hfinish, hseen] at hrun
  rw [hrun] at hcache hclock
  have hvisits := sound_set h.visits i
    (hsound.further hstage rfl (.left pass inner result) rfl sent)
  refine ⟨?_, ?_, hvisits, fun key page time hstore => ?_⟩
  · rw [hcache, Cache.replay_append, ← h.cache]
  · show (s'.caches place).Holds _ s'.clock
    rw [hcache, hclock]
    exact h.holds.storing _ _
  · rcases List.mem_append.mp hstore with hstore | hstore
    · exact (h.earned key page time hstore).set hvisit hstage (fun _ _ _ => nofun) _
    · -- the page that comes is the one that the search has earned
      obtain ⟨rfl, rfl⟩ := Cache.eq_of_mem_storing hstore
      have hi := (List.getElem?_eq_some_iff.mp hvisit).1
      refine ⟨_, List.mem_set hi _, pass, result, rfl, ?_⟩
      rw [hhanded, hseen]

/-- Every step preserves the invariant. -/
theorem Step.sound (hstep : Step place w more w') (h : Sound place first deeds w) :
    Sound place first (deeds ++ more) w' := by
  cases hstep with
  | arrive hrun hsent => exact h.arrive hrun hsent
  | @proceed i visit pass s' sent hvisit hstage hspares hsent =>
    rw [List.append_nil]
    have hvisits := sound_set h.visits i
      ((h.visits visit (List.mem_of_getElem? hvisit)).further hstage rfl (.inside pass) rfl
        (visit.sent ++ sent))
    rw [← hstage] at hvisits
    exact h.spares hspares hvisits fun _ _ hearned =>
      hearned.set hvisit hstage (fun _ _ _ => nofun) _
  | @turn i visit pass inner hvisit hstage =>
    rw [List.append_nil]
    have hvisits := sound_set h.visits i
      ((h.visits visit (List.mem_of_getElem? hvisit)).further hstage rfl (.back pass inner) rfl
        visit.sent)
    exact h.spares ⟨rfl, Nat.le_refl _⟩ hvisits fun _ _ hearned =>
      hearned.set hvisit hstage (fun _ _ _ => nofun) _
  | leave hvisit hstage hrun hsent => exact h.leave hvisit hstage hrun
  | clear =>
    refine ⟨?_, ?_, h.visits, fun key page time hstore => ?_⟩
    · rw [Session.caches_setCache, Cache.replay_append, ← h.cache]
      rfl
    · show ((w.session.setCache place _).caches place).Holds _ w.session.clock
      rw [Session.caches_setCache]
      exact Cache.Holds.clear _ _ _
    · rcases List.mem_append.mp hstore with hstore | hstore
      · exact h.earned key page time hstore
      · exact absurd (List.mem_singleton.mp hstore) nofun
  | meanwhile hspares =>
    rw [List.append_nil]
    exact h.spares hspares h.visits fun _ _ hearned => hearned

/-- So does a run. -/
theorem Runs.sound (hruns : Runs place w deeds w') (h : Sound place first [] w) :
    Sound place first deeds w' := by
  induction hruns with
  | start => exact h
  | step _ hstep ih => exact hstep.sound ih

end Step

/-- Nothing has been done yet to a cache that is empty. -/
theorem sound_start {place : Nat} {s : Session σ} (h : (s.caches place).pages = []) :
    Sound place (s.caches place) [] ⟨s, []⟩ :=
  ⟨rfl, Cache.holds_of_pages_eq_nil h s.clock, fun _ hvisit => absurd hvisit List.not_mem_nil,
    fun _ _ _ hstore => absurd hstore List.not_mem_nil⟩

/-! ## One search alone -/

/-- No request is sent when a search comes to the interceptor. -/
theorem adds_of_run_caching {place behind : Nat} {params : Params} {s s' : Session σ}
    {decision : Decision σ} (h : (Decider.caching place behind params).run s = (decision, s')) :
    s.Adds s' [] := by
  rw [Decider.run_caching] at h
  split at h
  · cases h
    exact Happening.exchanges_append s.trace [.event _]
  · cases h
    exact (List.append_nil _).symm

theorem adds_of_run_keepPage {place : Nat} {key : String} {inner result : Result Page}
    {s s' : Session σ} (h : (keepPage place key inner).run s = (result, s')) : s.Adds s' [] := by
  obtain ⟨-, -, hsent⟩ := run_keepPage place key inner s
  rw [h] at hsent
  exact hsent.trans (List.append_nil _).symm

theorem Runs.trans {place : Nat} {w w₁ w₂ : Sharing σ} {deeds more : List Deed}
    (h : Runs place w deeds w₁) (h' : Runs place w₁ more w₂) : Runs place w (deeds ++ more) w₂ := by
  induction h' with
  | start =>
    rw [List.append_nil]
    exact h
  | step _ hstep ih =>
    rw [← List.append_assoc]
    exact ih.step hstep

/-- A search as the interceptor runs it is a run of the steps above. -/
theorem runs_caching {place : Nat} {next : Next σ} (hnext : next.Spares place) (params : Params)
    (w : Sharing σ) : ∃ deeds visit, visit.params = params ∧
      visit.stage.result? = some ((caching place params next).run w.session).1 ∧
      Runs place w deeds
        ⟨((caching place params next).run w.session).2, w.visits ++ [visit]⟩ := by
  rcases hrun : (Decider.caching place next.remaining params).run w.session with ⟨decision, s₁⟩
  have hcomes := Runs.start.step (.arrive hrun (adds_of_run_caching hrun))
  rw [← Decider.interceptor_caching]
  cases decision with
  | answer result =>
    rw [Decider.run_interceptor_of_answer next hrun]
    exact ⟨_, ⟨params, .answered result, []⟩, rfl, rfl, hcomes⟩
  | pass handed finish =>
    have hmakes : (Decider.caching place).Makes ⟨params, handed, finish⟩ := ⟨_, _, _, hrun⟩
    obtain ⟨hhanded, hfinish⟩ :
        handed = params ∧ finish = keepPage place params.cacheKey :=
      Decider.eq_of_makes_caching hmakes
    rw [Decider.run_interceptor_of_pass next hrun]
    rw [hhanded, hfinish] at hcomes ⊢
    obtain ⟨hspares, sent, hsent⟩ := hnext params s₁
    have hlast : ∀ visit : Visit σ, (w.visits ++ [visit])[w.visits.length]? = some visit :=
      fun visit => List.getElem?_concat_length
    have hset : ∀ visit visit' : Visit σ,
        (w.visits ++ [visit]).set w.visits.length visit' = w.visits ++ [visit'] :=
      fun visit visit' => by rw [List.set_append_right _ _ (Nat.le_refl _), Nat.sub_self]; rfl
    have hgoes := hcomes.step (.proceed (hlast _) rfl hspares hsent)
    rw [hset] at hgoes
    have hturns := hgoes.step (.turn ((next.run params).run s₁).1 (hlast _) rfl)
    rw [hset] at hturns
    have hleaves := hturns.step (.leave (hlast _) rfl rfl (adds_of_run_keepPage rfl))
    rw [hset] at hleaves
    exact ⟨_, _, rfl, rfl, hleaves⟩

/-- How an interceptor passes a search on. -/
def caught (place : Nat) (params : Params) : Pass σ :=
  ⟨params, params, keepPage place params.cacheKey⟩

variable {place : Nat} {w : Sharing σ} {deeds : List Deed} {s : Session σ}
  {visits : List (Visit σ)}

/-- A search may come, find nothing and be passed on. -/
theorem Runs.missed (h : Runs place w deeds ⟨s, visits⟩) (params : Params) {c : Cache}
    (hnone : (s.caches place).lookup params.cacheKey s.clock = (none, c)) :
    Runs place w (deeds ++ [.lookup params.cacheKey s.clock])
      ⟨s.setCache place c, visits ++ [⟨params, .inside (caught place params), []⟩]⟩ := by
  have hrun : (Decider.caching place 0 params).run s =
      (.pass params (keepPage place params.cacheKey), s.setCache place c) := by
    rw [Decider.run_caching, hnone]
  have hcomes := h.step (.arrive hrun (adds_of_run_caching hrun))
  exact hcomes

/-- A search that was passed on may bring a page, if it can be kept. -/
theorem Runs.brought (h : Runs place w deeds ⟨s, visits⟩) {i : Nat} {params : Params}
    (hvisit : visits[i]? = some ⟨params, .inside (caught place params), []⟩)
    (hcan : (s.caches place).canStore s.clock = true) (page : Page) :
    Runs place w (deeds ++ [.store params.cacheKey page s.clock])
      ⟨s.setCache place ((s.caches place).store params.cacheKey page s.clock),
        visits.set i ⟨params, .left (caught place params) (.ok page) (.ok page), []⟩⟩ := by
  have hi := (List.getElem?_eq_some_iff.mp hvisit).1
  have hback := h.step (.turn (.ok page) hvisit rfl)
  have hrun := run_keepPage_ok hcan params.cacheKey page
  have hleft := hback.step (.leave (List.getElem?_set_self hi) rfl hrun (adds_of_run_keepPage hrun))
  have hstoring : (s.caches place).storing params.cacheKey (.ok page) s.clock =
      [.store params.cacheKey page s.clock] := if_pos hcan
  rw [List.set_set, List.append_nil, hstoring] at hleft
  exact hleft

/-! ## What the searches can rely on -/

/-- What can be relied on after some deeds to a cache that was this one at first. -/
structure Safe (place : Nat) (first : Cache) (deeds : List Deed) (w : Sharing σ) : Prop where
  /-- Nothing else was done to the cache. -/
  cache : w.session.caches place = first.replay deeds
  size_le : (w.session.caches place).size ≤ first.capacity
  /-- A page is found only if it was the last to be stored under its key, and not too long ago. -/
  found : ∀ key page, ((w.session.caches place).lookup key w.session.clock).1 = some page →
    ∃ time, LastStored deeds key page time ∧
      w.session.clock < time + first.lifetime.nanoseconds
  /-- Only what a search was given by the rest of its way is stored. -/
  stored : ∀ key page time, .store key page time ∈ deeds → Earned w.visits key page
  /-- So it is with all that is kept. -/
  kept : ∀ p ∈ (w.session.caches place).pages, Earned w.visits p.key p.page
  /-- A search that comes is answered with a page that is found, and sends nothing. -/
  answers : ∀ behind params result s',
    (Decider.caching place behind params).run w.session = (.answer result, s') →
    ∃ page, result = .ok page ∧
      ((w.session.caches place).lookup params.cacheKey w.session.clock).1 = some page ∧
      Happening.exchanges s'.trace = Happening.exchanges w.session.trace
  unsent : ∀ visit ∈ w.visits, ∀ result, visit.stage = .answered result → visit.sent = []

theorem Sound.safe {place : Nat} {first : Cache} {deeds : List Deed} {w : Sharing σ}
    (h : Sound place first deeds w) : Safe place first deeds w := by
  obtain ⟨pages, hpages⟩ := first.exists_replay_eq deeds
  have hcache : w.session.caches place = { first with pages } := h.cache.trans hpages
  refine ⟨h.cache, ?_, fun key page hfound => ?_, h.earned, fun p hp => ?_, ?_, fun visit hvisit =>
    (h.visits visit hvisit).unsent⟩
  · have hsize := h.holds.size_le
    rw [hcache] at hsize ⊢
    exact hsize
  · obtain ⟨time, hlast, hfresh⟩ := h.holds.found hfound
    refine ⟨time, hlast, ?_⟩
    rw [hcache] at hfresh
    exact hfresh
  · obtain ⟨time, hlast, -⟩ := h.holds.last p hp
    exact h.earned _ _ _ hlast.mem
  · intro behind params result s' hrun
    have hadds : w.session.Adds s' [] := adds_of_run_caching hrun
    rw [Decider.run_caching] at hrun
    split at hrun
    · rename_i page c hlookup
      cases hrun
      exact ⟨page, rfl, congrArg Prod.fst hlookup, hadds.trans (List.append_nil _)⟩
    · cases hrun

end Sharing

/-- **A shared cache.** However many searches come to a cache that was empty at first, and whatever
comes between their steps: there are never more pages than it has room for, a page that is found is
the last to be stored under its key and still fresh, every page was given to a search with that key
by the rest of its way, and a search that is answered sends nothing. So it is as well when another
search, as the interceptor runs it, has come and been left. -/
theorem cache_safe {place : Nat} {s : Session σ} (hempty : (s.caches place).pages = [])
    {deeds : List Deed} {w : Sharing σ} (hruns : Sharing.Runs place ⟨s, []⟩ deeds w) :
    Sharing.Safe place (s.caches place) deeds w ∧
      ∀ next : Next σ, next.Spares place → ∀ params, ∃ more visit, visit.params = params ∧
        visit.stage.result? = some ((caching place params next).run w.session).1 ∧
        Sharing.Safe place (s.caches place) (deeds ++ more)
          ⟨((caching place params next).run w.session).2, w.visits ++ [visit]⟩ := by
  have hstart := Sharing.sound_start hempty
  refine ⟨(hruns.sound hstart).safe, fun next hnext params => ?_⟩
  obtain ⟨more, visit, hparams, hresult, hmore⟩ := Sharing.runs_caching hnext params w
  exact ⟨more, visit, hparams, hresult, ((hruns.trans hmore).sound hstart).safe⟩

/-- A session with a cache that keeps one page for a minute. -/
def narrow : Session Unit where
  server := ()
  timing := .together
  clock := 0
  timer := 0
  limiter := .ofInterval .zero
  token := .fresh
  caches _ := .empty (.ofSeconds 60) 1
  trace := []

/-- Two searches for the same papers may find nothing and store a page each. -/
theorem exists_runs_narrow (page page' : Page) : ∃ w, Sharing.Runs 0 ⟨narrow, []⟩
    [.lookup Params.default.cacheKey 0, .lookup Params.default.cacheKey 0,
      .store Params.default.cacheKey page 0, .store Params.default.cacheKey page' 0] w ∧
    w.session.clock = 0 := by
  have hnone : (narrow.caches 0).lookup Params.default.cacheKey 0 = (none, narrow.caches 0) := rfl
  have hboth := ((Sharing.Runs.start (w := ⟨narrow, []⟩)).missed .default hnone).missed .default
    hnone
  have hcan : (narrow.caches 0).canStore 0 = true := by decide
  have hfirst := hboth.brought (i := 0) rfl hcan page
  exact ⟨_, hfirst.brought (i := 1) rfl hcan page', rfl⟩

/-- A way on which nothing is found. -/
def barren : Next Unit :=
  ⟨0, fun _ => return .error .cancelled⟩

theorem spares_barren (place : Nat) : barren.Spares place :=
  fun _ _ => ⟨⟨rfl, Nat.le_refl _⟩, [], (List.append_nil _).symm⟩

/-- The page that was stored last is found, and it is the only one. -/
theorem cache_safe_narrow : (narrow.caches 0).pages = [] ∧ barren.Spares 0 ∧
    ∃ deeds w, Sharing.Runs 0 ⟨narrow, []⟩ deeds w ∧ (w.session.caches 0).size ≤ 1 ∧
      ((w.session.caches 0).lookup Params.default.cacheKey w.session.clock).1 = some onlyPage ∧
      (∃ time, LastStored deeds Params.default.cacheKey onlyPage time ∧
        w.session.clock < time + 60000000000) ∧
      (((caching 0 .default barren).run w.session).2.caches 0).size ≤ 1 := by
  have hempty : (narrow.caches 0).pages = [] := rfl
  obtain ⟨w, hruns, hclock⟩ := exists_runs_narrow .default onlyPage
  obtain ⟨hsafe, hsearch⟩ := cache_safe hempty hruns
  have hfound : ((w.session.caches 0).lookup Params.default.cacheKey w.session.clock).1 =
      some onlyPage := by
    rw [hsafe.cache, hclock]
    exact Cache.lookup_store _ _ _ (by decide)
  obtain ⟨more, visit, -, -, hsafe'⟩ := hsearch barren (spares_barren 0) .default
  exact ⟨hempty, spares_barren 0, _, w, hruns, hsafe.size_le, hfound, hsafe.found _ _ hfound,
    hsafe'.size_le⟩

end PaperSearch
