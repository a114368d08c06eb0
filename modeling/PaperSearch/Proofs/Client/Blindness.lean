import PaperSearch.Proofs.Client.Watching

/-!
# What the log leaves alone

Two sessions are alike if they differ in what was reported and written down, and in nothing else:
the requests and their times are the same (`Session.Alike`). Two actions are alike if they do the
same in sessions that are alike (`Search.Alike`), and an interceptor is blind if it makes actions
that are alike of ways that are alike: it sees neither the log nor how many others stand behind it
(`Interceptor.IsBlind`).

The engine does not read the log (`Engine.alike_execute`), and the interceptors of the library are
blind (`isBlind_logging`, `isBlind_hooks`, `isBlind_caching`).
-/

namespace PaperSearch

open Time

variable {σ α β : Type}

/-! ## Sessions -/

namespace Happening

def isExchange : Happening → Bool
  | exchange .. => true
  | _ => false

/-- What a trace tells of requests, their times among it. -/
def requests (trace : List Happening) : List Happening :=
  trace.filter isExchange

theorem requests_append (trace seen : List Happening) :
    requests (trace ++ seen) = requests trace ++ requests seen :=
  List.filter_append ..

theorem exchanges_requests (trace : List Happening) :
    exchanges (requests trace) = exchanges trace := by
  unfold exchanges requests
  rw [List.filterMap_filter]
  exact congrArg (trace.filterMap ·) (funext fun h => by cases h <;> rfl)

theorem exchangeTimes_requests (trace : List Happening) :
    exchangeTimes (requests trace) = exchangeTimes trace := by
  unfold exchangeTimes requests
  rw [List.filterMap_filter]
  exact congrArg (trace.filterMap ·) (funext fun h => by cases h <;> rfl)

theorem requests_eq_nil {trace : List Happening} (h : exchanges trace = []) :
    requests trace = [] := by
  refine List.filter_eq_nil_iff.mpr fun happening hmem hexchange => ?_
  cases happening with
  | exchange time method encoded =>
    have hsent : (method, encoded) ∈ exchanges trace := List.mem_filterMap.mpr ⟨_, hmem, rfl⟩
    rw [h] at hsent
    exact absurd hsent List.not_mem_nil
  | event e => cases hexchange
  | note line => cases hexchange
  | overflow => cases hexchange

end Happening

namespace Session

/-- The sessions are the same but for what was reported and written down. -/
def Alike (s t : Session σ) : Prop :=
  ∃ trace, Happening.requests trace = Happening.requests s.trace ∧ t = { s with trace }

namespace Alike

variable {s t u : Session σ}

theorem refl (s : Session σ) : s.Alike s :=
  ⟨s.trace, rfl, rfl⟩

theorem trans (h : s.Alike t) (h' : t.Alike u) : s.Alike u := by
  obtain ⟨trace, htrace, rfl⟩ := h
  obtain ⟨trace', htrace', rfl⟩ := h'
  exact ⟨trace', htrace'.trans htrace, rfl⟩

theorem see (h : s.Alike t) (happening : Happening) :
    (s.see happening).Alike (t.see happening) := by
  obtain ⟨trace, htrace, rfl⟩ := h
  refine ⟨trace ++ [happening], ?_, rfl⟩
  show Happening.requests _ = Happening.requests (s.trace ++ [happening])
  rw [Happening.requests_append, Happening.requests_append, htrace]

/-- Anything may be seen but requests. -/
theorem seeing (s : Session σ) {seen : List Happening} (h : Happening.exchanges seen = []) :
    s.Alike (s.seeing seen) := by
  refine ⟨s.trace ++ seen, ?_, rfl⟩
  rw [Happening.requests_append, Happening.requests_eq_nil h, List.append_nil]

theorem under (h : s.Alike t) (token : Cancellation) : (s.under token).Alike (t.under token) := by
  obtain ⟨trace, htrace, rfl⟩ := h
  exact ⟨trace, htrace, rfl⟩

theorem exchanges (h : s.Alike t) :
    Happening.exchanges t.trace = Happening.exchanges s.trace := by
  obtain ⟨trace, htrace, rfl⟩ := h
  rw [← Happening.exchanges_requests s.trace, ← htrace, Happening.exchanges_requests]

theorem exchangeTimes (h : s.Alike t) :
    Happening.exchangeTimes t.trace = Happening.exchangeTimes s.trace := by
  obtain ⟨trace, htrace, rfl⟩ := h
  rw [← Happening.exchangeTimes_requests s.trace, ← htrace, Happening.exchangeTimes_requests]

end Alike

theorem pause_withTrace (s : Session σ) (trace : List Happening) (d : Duration) :
    ({ s with trace } : Session σ).pause d = ((s.pause d).1, { (s.pause d).2 with trace }) := by
  unfold pause
  dsimp only
  split
  · rfl
  · split <;> rfl

theorem awaitPermit_withTrace (s : Session σ) (trace : List Happening) :
    ({ s with trace } : Session σ).awaitPermit =
      (s.awaitPermit.1, { s.awaitPermit.2 with trace }) := by
  unfold awaitPermit firesWaiting?
  dsimp only
  split
  · rfl
  · split
    · rfl
    · split <;> rfl

end Session

/-! ## Actions -/

namespace Search

/-- The actions do the same in sessions that are alike, but for what they report. -/
def Alike (x y : Search σ α) : Prop :=
  ∀ s t : Session σ, s.Alike t → (x.run s).1 = (y.run t).1 ∧ (x.run s).2.Alike (y.run t).2

namespace Alike

theorem pure (a : α) : Alike (σ := σ) (pure a) (pure a) :=
  fun _ _ h => ⟨rfl, h⟩

theorem bind {x y : Search σ α} {f g : α → Search σ β} (h : Alike x y)
    (hrest : ∀ a, Alike (f a) (g a)) : Alike (x >>= f) (y >>= g) := by
  intro s t hst
  obtain ⟨hvalue, hsession⟩ := h s t hst
  rw [run_bind, run_bind, ← hvalue]
  exact hrest _ _ _ hsession

theorem record (happening : Happening) : Alike (σ := σ) (record happening) (record happening) :=
  fun _ _ h => ⟨rfl, h.see happening⟩

theorem report (level : Level) (message : String) (fields : List (String × Reported)) :
    Alike (σ := σ) (report level message fields) (report level message fields) :=
  record _

theorem note (line : String) : Alike (σ := σ) (note line) (note line) :=
  record _

theorem breakOff : Alike (breakOff : Search σ (Result α)) breakOff :=
  bind (record _) fun _ => pure _

theorem isCancelled : Alike (σ := σ) isCancelled isCancelled := by
  rintro s _ ⟨trace, htrace, rfl⟩
  exact ⟨rfl, trace, htrace, rfl⟩

theorem pausing (d : Duration) : Alike (σ := σ) (pausing d) (pausing d) := by
  rintro s _ ⟨trace, htrace, rfl⟩
  have hpause : (Search.pausing d).run { s with trace } = _ := s.pause_withTrace trace d
  rw [hpause]
  refine ⟨rfl, trace, ?_, rfl⟩
  rw [htrace, ← s.trace_pause d]
  rfl

/-- A wait, and what is done according to how it ends. -/
theorem pausing_bind_if (d : Duration) {x x' y y' : Search σ α} (h : Alike x x')
    (h' : Alike y y') : Alike (Search.pausing d >>= fun waited => if waited then x else y)
      (Search.pausing d >>= fun waited => if waited then x' else y') := by
  refine (pausing d).bind fun waited => ?_
  cases waited with
  | true => exact h
  | false => exact h'

theorem permitted : Alike (σ := σ) permitted permitted := by
  rintro s _ ⟨trace, htrace, rfl⟩
  have hpermit : Search.permitted.run { s with trace } = _ := s.awaitPermit_withTrace trace
  rw [hpermit]
  refine ⟨rfl, trace, ?_, rfl⟩
  rw [htrace, ← s.trace_awaitPermit]
  rfl

end Alike

end Search

/-! ## The engine -/

namespace Engine

open Search (Alike)

variable (e : Engine σ) (encoded : String)

theorem alike_exchange : Alike (e.exchange encoded) (e.exchange encoded) := by
  rw [exchange_eq]
  refine .bind .isCancelled fun fired => ?_
  cases fired with
  | true => exact .pure none
  | false =>
    refine .bind ?_ fun d => .bind (.pausing d) fun ended => ?_
    · rintro s _ ⟨trace, htrace, rfl⟩
      obtain ⟨trace', htrace', hsee⟩ :=
        Session.Alike.see ⟨trace, htrace, rfl⟩ (.exchange s.timer e.method encoded)
      exact ⟨rfl, trace', htrace', hsee⟩
    · rintro s _ ⟨trace, htrace, rfl⟩
      cases ended <;> exact ⟨rfl, trace, htrace, rfl⟩

theorem alike_attempt (number : UInt32) :
    Alike (e.attempt encoded number) (e.attempt encoded number) := by
  rw [attempt_eq]
  refine .bind .permitted fun permitted => ?_
  cases permitted with
  | true => exact .bind (.report _ _ _) fun _ => e.alike_exchange encoded
  | false => exact .pure none

theorem alike_giveUp (outcome : Outcome) (number : UInt32) :
    Alike (σ := σ) (giveUp outcome number) (giveUp outcome number) := by
  unfold giveUp
  split
  · exact .bind (.report _ _ _) fun _ => .pure _
  · exact .pure _

theorem alike_attempts (number : UInt32) :
    Alike (e.attempts encoded number) (e.attempts encoded number) := by
  induction number using attempts.induct with
  | e => exact e
  | case1 number ih =>
    rw [attempts]
    refine .bind (e.alike_attempt encoded number) fun outcome? => ?_
    cases outcome? with
    | none => exact .pure _
    | some outcome =>
      dsimp only
      cases success? outcome with
      | some response =>
        dsimp only
        split
        · exact .bind (.report _ _ _) fun _ => .pure _
        · exact .pure _
      | none =>
        dsimp only
        split
        · rename_i hretry
          have hrest := ih outcome hretry
          split
          · exact .breakOff
          · exact .bind (.report _ _ _) fun _ => .pausing_bind_if _ hrest (.pure _)
        · exact alike_giveUp outcome number

theorem alike_execute (params : Params) : Alike (e.execute params) (e.execute params) := by
  have hraw : Alike (e.rawSearch params) (e.rawSearch params) := by
    unfold rawSearch
    split
    · exact .pure _
    · exact e.alike_attempts _ 1
  refine .bind hraw fun result => ?_
  cases result with
  | error error => exact .pure _
  | ok response =>
    dsimp only
    split
    · exact .pure _
    · exact .pure _

end Engine

/-! ## Interceptors -/

/-- The same happens on both ways, however many interceptors stand on them. -/
def Next.Alike (next next' : Next σ) : Prop :=
  ∀ params, Search.Alike (next.run params) (next'.run params)

/-- An interceptor that sees neither the log nor how many others stand behind it. It may do anything
else: change the parameters, answer itself, go the rest of the way more than once, let time pass. -/
def Interceptor.IsBlind (i : Interceptor σ) : Prop :=
  ∀ params (next next' : Next σ), next.Alike next' → Search.Alike (i params next) (i params next')

theorem isBlind_logging : Interceptor.IsBlind (logging : Interceptor σ) := by
  intro params next next' hnext
  unfold logging
  refine .bind (.report _ _ _) fun _ => .bind (hnext params) fun result => ?_
  cases result with
  | ok page => exact .bind (.report _ _ _) fun _ => .pure _
  | error e => exact .bind (.report _ _ _) fun _ => .pure _

theorem isBlind_hooks (hooks : Hooks) :
    Interceptor.IsBlind (hooks.interceptor : Interceptor σ) := by
  intro params next next' hnext
  obtain ⟨onRequest, onResponse⟩ := hooks
  cases onRequest with
  | none =>
    cases onResponse with
    | none => exact .bind (hnext params) fun _ => .pure _
    | some hook => exact .bind (hnext params) fun _ => .bind (.note _) fun _ => .pure _
  | some request =>
    refine .bind (.note _) fun _ => ?_
    cases onResponse with
    | none => exact .bind (hnext params) fun _ => .pure _
    | some hook => exact .bind (hnext params) fun _ => .bind (.note _) fun _ => .pure _

theorem isBlind_caching (place : Nat) :
    Interceptor.IsBlind (caching place : Interceptor σ) := by
  intro params next next' hnext
  unfold caching
  refine .bind ?_ fun found => ?_
  · rintro s _ ⟨trace, htrace, rfl⟩
    exact ⟨rfl, trace, htrace, rfl⟩
  · cases found with
    | some page => exact .bind (.report _ _ _) fun _ => .pure _
    | none =>
      refine .bind (hnext params) fun result => ?_
      cases result with
      | error e => exact .pure _
      | ok page =>
        refine .bind ?_ fun kept => ?_
        · rintro s _ ⟨trace, htrace, rfl⟩
          exact ⟨rfl, trace, htrace, rfl⟩
        · cases kept with
          | true => exact .pure _
          | false => exact .breakOff

end PaperSearch
