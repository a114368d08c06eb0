import Mathlib.Logic.Relation
import PaperSearch.Client.Settings
import PaperSearch.Proofs.Client.Iteration
import PaperSearch.Proofs.Client.Relaying

/-!
# What a client sends

A step sends only such requests (`Search.SendsOnly`) if no others come into the trace in it, from
whatever session it begins. `SendsOnly.bind` puts steps together. The engine sends only the request
of the parameters that it is given, and only if they are within bounds (`Params.InBounds`).

Interceptors are not looked into. An interceptor may go the rest of the way as often as it likes
and with any parameters, but it sends nothing itself (`Interceptor.SendsNothing`). Whatever is then
asked of a client, one thing after another (`Client.Step`), it sends requests within bounds, and it
refuses parameters beyond them before anything happens (`Client.Refuses`).
-/

namespace PaperSearch

open Time

variable {σ α β : Type}

/-! ## Parameters within bounds -/

/-- No more results are asked for than may be, and none from further on than may be. -/
def Params.InBounds (params : Params) : Prop :=
  params.maxResults.toNat ≤ 2000 ∧ params.start.toNat ≤ 30000

theorem Params.check_eq_ok_iff {params : Params} :
    params.check = .ok () ↔ params.InBounds := by
  have hresults : maxResultsLimit < params.maxResults ↔ 2000 < params.maxResults.toNat :=
    UInt64.lt_iff_toNat_lt
  have hstart : maxStart < params.start ↔ 30000 < params.start.toNat := UInt64.lt_iff_toNat_lt
  unfold check InBounds
  split
  · rename_i h
    exact ⟨nofun, fun hbounds => absurd (hresults.mp h) (by omega)⟩
  · rename_i h
    have hle : params.maxResults.toNat ≤ 2000 := Nat.not_lt.mp fun hlt => h (hresults.mpr hlt)
    split
    · rename_i h'
      exact ⟨nofun, fun hbounds => absurd (hstart.mp h') (by omega)⟩
    · rename_i h'
      exact ⟨fun _ => ⟨hle, Nat.not_lt.mp fun hlt => h' (hstart.mpr hlt)⟩, fun _ => rfl⟩

/-- Parameters that are not within bounds are refused, for a reason. -/
theorem Params.exists_check_eq_error {params : Params} (h : ¬ params.InBounds) :
    ∃ cause, params.check = .error cause := by
  cases hcheck : params.check with
  | error cause => exact ⟨cause, rfl⟩
  | ok _ => exact absurd (check_eq_ok_iff.mp hcheck) h

/-! ## Steps that send only such requests -/

/-- The second session comes after the first, and only such requests were sent in between. -/
def Session.Sends (such : Method × String → Prop) (s s' : Session σ) : Prop :=
  ∃ sent, Happening.exchanges s'.trace = Happening.exchanges s.trace ++ sent ∧ ∀ r ∈ sent, such r

namespace Session.Sends

variable {such such' : Method × String → Prop} {s s' s'' : Session σ}

theorem of_eq (h : Happening.exchanges s'.trace = Happening.exchanges s.trace) :
    s.Sends such s' :=
  ⟨[], by rw [h, List.append_nil], nofun⟩

theorem trans (h : s.Sends such s') (h' : s'.Sends such s'') : s.Sends such s'' := by
  obtain ⟨sent, hsent, hsuch⟩ := h
  obtain ⟨sent', hsent', hsuch'⟩ := h'
  refine ⟨sent ++ sent', by rw [hsent', hsent, List.append_assoc], fun r hr => ?_⟩
  exact (List.mem_append.mp hr).elim (hsuch r) (hsuch' r)

theorem mono (h : s.Sends such s') (hmono : ∀ r, such r → such' r) : s.Sends such' s' := by
  obtain ⟨sent, hsent, hsuch⟩ := h
  exact ⟨sent, hsent, fun r hr => hmono r (hsuch r hr)⟩

/-- Nothing is sent if nothing may be. -/
theorem exchanges_eq (h : s.Sends (fun _ => False) s') :
    Happening.exchanges s'.trace = Happening.exchanges s.trace := by
  obtain ⟨sent, hsent, hnone⟩ := h
  rw [hsent, List.eq_nil_iff_forall_not_mem.mpr hnone, List.append_nil]

end Session.Sends

/-- Wherever the step begins, only such requests are sent in it. -/
def Search.SendsOnly (such : Method × String → Prop) (x : Search σ α) : Prop :=
  ∀ s : Session σ, s.Sends such (x.run s).2

namespace Search.SendsOnly

variable {such such' : Method × String → Prop} {x : Search σ α}

/-- A step in which nothing is seen. -/
theorem of_trace_eq (h : ∀ s, (x.run s).2.trace = s.trace) : SendsOnly such x :=
  fun s => .of_eq (congrArg Happening.exchanges (h s))

theorem pure (a : α) : SendsOnly such (Pure.pure a : Search σ α) :=
  of_trace_eq fun _ => rfl

theorem bind {f : α → Search σ β} (hx : SendsOnly such x) (hf : ∀ a, SendsOnly such (f a)) :
    SendsOnly such (x >>= f) :=
  fun s => (hx s).trans (hf (x.run s).1 (x.run s).2)

theorem mono (h : SendsOnly such x) (hmono : ∀ r, such r → such' r) : SendsOnly such' x :=
  fun s => (h s).mono hmono

/-- Something is seen that is no request. -/
theorem record {h : Happening} (hh : Happening.exchanges [h] = []) :
    SendsOnly such (Search.record h : Search σ Unit) := by
  intro s
  refine .of_eq ?_
  have happend := Happening.exchanges_append s.trace [h]
  rw [hh, List.append_nil] at happend
  exact happend

theorem report (level : Level) (message : String) (fields : List (String × Reported)) :
    SendsOnly such (Search.report level message fields : Search σ Unit) :=
  record rfl

theorem note (line : String) : SendsOnly such (Search.note line : Search σ Unit) :=
  record rfl

theorem breakOff : SendsOnly such (Search.breakOff : Search σ (Result α)) :=
  bind (record rfl) fun _ => pure _

end Search.SendsOnly

open Search (SendsOnly)

theorem Session.trace_pause (s : Session σ) (d : Duration) : (s.pause d).2.trace = s.trace := by
  unfold pause
  split
  · rfl
  · split <;> rfl

theorem Session.trace_awaitPermit (s : Session σ) : s.awaitPermit.2.trace = s.trace := by
  unfold awaitPermit
  split
  · rfl
  · dsimp only
    split
    · rfl
    · split <;> rfl

/-! ## The engine -/

namespace Engine

variable (e : Engine σ) (encoded : String)

theorem sendsOnly_exchange : SendsOnly (· = (e.method, encoded)) (e.exchange encoded) := by
  rw [exchange_eq]
  refine .bind (.of_trace_eq fun _ => rfl) fun fired => ?_
  cases fired with
  | true => exact .pure _
  | false =>
    refine .bind ?_ fun d => .bind ?_ fun ended => ?_
    · intro s
      refine ⟨[(e.method, encoded)], ?_, fun r hr => List.mem_singleton.mp hr⟩
      exact Happening.exchanges_append s.trace [.exchange s.timer e.method encoded]
    · exact .of_trace_eq fun s => s.trace_pause d
    · cases ended <;> exact .of_trace_eq fun _ => rfl

theorem sendsOnly_attempt (number : UInt32) :
    SendsOnly (· = (e.method, encoded)) (e.attempt encoded number) := by
  rw [attempt_eq]
  refine .bind (.of_trace_eq fun s => s.trace_awaitPermit) fun permitted => ?_
  cases permitted with
  | true => exact .bind (.report _ _ _) fun _ => e.sendsOnly_exchange encoded
  | false => exact .pure _

theorem sendsOnly_giveUp {such : Method × String → Prop} (outcome : Outcome) (number : UInt32) :
    SendsOnly such (giveUp outcome number : Search σ (Result Response)) := by
  unfold giveUp
  split
  · exact .bind (.report _ _ _) fun _ => .pure _
  · exact .pure _

theorem sendsOnly_attempts (number : UInt32) :
    SendsOnly (· = (e.method, encoded)) (e.attempts encoded number) := by
  induction number using attempts.induct with
  | e => exact e
  | case1 number ih =>
    rw [attempts]
    refine .bind (e.sendsOnly_attempt encoded number) fun outcome? => ?_
    cases outcome? with
    | none => exact .pure _
    | some outcome =>
      dsimp only
      cases success? outcome with
      | some response =>
        dsimp only
        split
        · exact .bind (.report _ _ _) fun _ => .pure _
        · exact .pure _
      | none =>
        dsimp only
        split
        · rename_i hretry
          split
          · exact .breakOff
          · rename_i wait _
            -- the wait is a step that reads the session and one that sets it
            refine .bind (.report _ _ _) fun _ => ?_
            have hwait : SendsOnly (· = (e.method, encoded)) (Search.pausing (σ := σ) wait) :=
              .of_trace_eq fun s => s.trace_pause _
            refine .bind (f := fun waited => if waited then e.attempts encoded (number + 1)
              else return .error .cancelled) hwait fun waited => ?_
            cases waited with
            | true => exact ih outcome hretry
            | false => exact .pure _
        · exact sendsOnly_giveUp outcome number

variable {e}

/-- Parameters that are not within bounds are refused, and nothing happens. -/
theorem run_rawSearch_of_error {params : Params} {cause : InvalidParams}
    (h : params.check = .error cause) (s : Session σ) :
    (e.rawSearch params).run s = (.error (.invalid cause), s) := by
  unfold rawSearch
  rw [h]
  rfl

theorem run_execute_of_error {params : Params} {cause : InvalidParams}
    (h : params.check = .error cause) (s : Session σ) :
    (e.execute params).run s = (.error (.invalid cause), s) := by
  rw [run_execute, run_rawSearch_of_error h]
  rfl

variable (e)

/-- The only request of a search is that of its parameters, and they are within bounds. -/
theorem sendsOnly_rawSearch (params : Params) :
    SendsOnly (fun r => params.InBounds ∧ r = (e.method, params.encode)) (e.rawSearch params) := by
  intro s
  cases hcheck : params.check with
  | error cause =>
    rw [run_rawSearch_of_error hcheck]
    exact .of_eq rfl
  | ok _ =>
    rw [run_rawSearch hcheck]
    exact (e.sendsOnly_attempts params.encode 1 s).mono fun r hr =>
      ⟨Params.check_eq_ok_iff.mp hcheck, hr⟩

theorem sendsOnly_execute (params : Params) :
    SendsOnly (fun r => params.InBounds ∧ r = (e.method, params.encode)) (e.execute params) := by
  intro s
  rw [run_execute]
  exact e.sendsOnly_rawSearch params s

end Engine

/-! ## Interceptors -/

/-- An interceptor sends nothing itself: no requests are sent in it but such as are sent on the rest
of the way. -/
def Interceptor.SendsNothing (i : Interceptor σ) : Prop :=
  ∀ (such : Method × String → Prop) (next : Next σ),
    (∀ params, SendsOnly such (next.run params)) → ∀ params, SendsOnly such (i params next)

theorem sendsNothing_logging : Interceptor.SendsNothing (logging : Interceptor σ) := by
  intro such next hnext params
  refine .bind (.report _ _ _) fun _ => .bind (hnext params) fun result => ?_
  cases result with
  | ok page => exact .bind (.report _ _ _) fun _ => .pure _
  | error error => exact .bind (.report _ _ _) fun _ => .pure _

theorem sendsNothing_hooks (hooks : Hooks) :
    Interceptor.SendsNothing (hooks.interceptor : Interceptor σ) := by
  intro such next hnext params
  obtain ⟨onRequest, onResponse⟩ := hooks
  -- without the first hook the rest is left
  have hafter : SendsOnly such (Hooks.interceptor ⟨none, onResponse⟩ params next) := by
    refine .bind (hnext params) fun result => ?_
    cases onResponse with
    | none => exact .pure _
    | some hook => exact .bind (.note _) fun _ => .pure _
  cases onRequest with
  | none => exact hafter
  | some hook => exact .bind (.note _) fun _ => hafter

theorem sendsNothing_caching (cache : Nat) :
    Interceptor.SendsNothing (caching cache : Interceptor σ) := by
  intro such next hnext params
  refine .bind (.of_trace_eq fun _ => rfl) fun found => ?_
  cases found with
  | some page => exact .bind (.report _ _ _) fun _ => .pure _
  | none =>
    refine .bind (hnext params) fun result => ?_
    cases result with
    | error error => exact .pure _
    | ok page =>
      refine .bind (.of_trace_eq fun _ => rfl) fun kept => ?_
      cases kept with
      | true => exact .pure _
      | false => exact .breakOff

/-- What holds of the interceptors of the library, and of those that settings bring with them, holds
of all that the settings ask for. -/
theorem forall_interceptorsFrom {P : Interceptor σ → Prop} {fittings : List (Fitting σ)}
    (hlogging : P logging) (hhooks : ∀ hooks : Hooks, P hooks.interceptor)
    (hcaching : ∀ cache, P (caching cache)) (hcustom : ∀ i, .custom i ∈ fittings → P i)
    (place : Nat) : ∀ i ∈ Settings.interceptorsFrom place fittings, P i := by
  induction fittings generalizing place with
  | nil => exact nofun
  | cons fitting rest ih =>
    have hrest := ih (fun i hi => hcustom i (List.mem_cons_of_mem fitting hi)) (place + 1)
    intro i hi
    cases fitting with
    | logging =>
      rcases List.mem_cons.mp hi with rfl | hi
      · exact hlogging
      · exact hrest i hi
    | hooks hooks =>
      rcases List.mem_cons.mp hi with rfl | hi
      · exact hhooks hooks
      · exact hrest i hi
    | cache cache =>
      rcases List.mem_cons.mp hi with rfl | hi
      · exact hcaching place
      · exact hrest i hi
    | custom custom =>
      rcases List.mem_cons.mp hi with rfl | hi
      · exact hcustom i List.mem_cons_self
      · exact hrest i hi

/-- The interceptors that settings ask for send nothing, if those that they bring with them do
not. -/
theorem sendsNothing_interceptorsFrom {fittings : List (Fitting σ)}
    (hcustom : ∀ i, .custom i ∈ fittings → Interceptor.SendsNothing i) (place : Nat) :
    ∀ i ∈ Settings.interceptorsFrom place fittings, Interceptor.SendsNothing i :=
  forall_interceptorsFrom sendsNothing_logging sendsNothing_hooks sendsNothing_caching hcustom place

/-- What is sent through interceptors is what the engine sends. -/
theorem sendsOnly_through {e : Engine σ} {such : Method × String → Prop}
    (he : ∀ params, SendsOnly such (e.execute params)) {interceptors : List (Interceptor σ)}
    (hinterceptors : ∀ i ∈ interceptors, i.SendsNothing) (params : Params) :
    SendsOnly such ((Next.through e interceptors).run params) := by
  induction interceptors generalizing params with
  | nil => exact he params
  | cons i rest ih =>
    exact hinterceptors i List.mem_cons_self such (Next.through e rest)
      (ih fun j hj => hinterceptors j (List.mem_cons_of_mem i hj)) params

/-! ## Clients -/

/-- A request of some parameters within bounds. -/
def IsInBounds (method : Method) (r : Method × String) : Prop :=
  ∃ params : Params, params.InBounds ∧ r = (method, params.encode)

namespace Client

variable (c : Client σ)

/-- Something that is asked of a client in a session, and the session after it. -/
inductive Step : Session σ → Session σ → Prop
  | search (params : Params) (s : Session σ) : Step s ((c.search params).run s).2
  | searchWith (token : Cancellation) (params : Params) (s : Session σ) :
      Step s ((c.searchWith token params).run s).2
  | rawSearch (token : Cancellation) (params : Params) (s : Session σ) :
      Step s ((c.rawSearch token params).run s).2
  | searchNext (page : Page) (s : Session σ) : Step s ((c.searchNext page).run s).2
  | searchPrevious (page : Page) (s : Session σ) : Step s ((c.searchPrevious page).run s).2
  /-- A call of an iterator that comes back. -/
  | next {it : Iter} {s : Session σ} {r : (Option Entry × Iter) × Session σ}
      (h : it.next c s = some r) : Step s r.2
  /-- One page that is fetched in a call, which may never come back. -/
  | fetch (it : Iter) (s : Session σ) : Step s ((it.fetch c).run s).2
  /-- Anything else that sends nothing: time passes, a token is fired, a cache is cleared. -/
  | meanwhile {s s' : Session σ}
      (h : Happening.exchanges s'.trace = Happening.exchanges s.trace) : Step s s'

variable {c}

theorem sendsOnly_searchWith (hinterceptors : ∀ i ∈ c.interceptors, i.SendsNothing)
    (token : Cancellation) (params : Params) :
    SendsOnly (IsInBounds c.engine.method) (c.searchWith token params) := by
  refine .bind (.of_trace_eq fun _ => rfl) fun _ => ?_
  cases params.check with
  | error cause => exact .pure _
  | ok _ =>
    refine sendsOnly_through (fun params => ?_) hinterceptors params
    exact (c.engine.sendsOnly_execute params).mono fun r hr => ⟨params, hr⟩

theorem sendsOnly_fetch (hinterceptors : ∀ i ∈ c.interceptors, i.SendsNothing) (it : Iter) :
    SendsOnly (IsInBounds c.engine.method) (it.fetch c) := by
  refine .bind (sendsOnly_searchWith hinterceptors _ _) fun result => ?_
  refine .bind (.of_trace_eq fun _ => rfl) fun s => ?_
  cases result with
  | ok page => exact .pure _
  | error error => exact .bind (.report _ _ _) fun _ => .pure _

/-- A call of an iterator sends what it sends for its pages. -/
theorem sends_next (hinterceptors : ∀ i ∈ c.interceptors, i.SendsNothing) {it : Iter}
    {s : Session σ} {r : (Option Entry × Iter) × Session σ} (h : it.next c s = some r) :
    s.Sends (IsInBounds c.engine.method) r.2 := by
  obtain ⟨⟨answer, it'⟩, s'⟩ := r
  obtain ⟨made, hreturns⟩ := Iter.next_eq_some_iff.mp h
  clear h
  induction hreturns with
  | entry _ s => exact .of_eq rfl
  | nothing _ _ s => exact .of_eq rfl
  | @search it _ s _ _ _ _ _ rest ih => exact (sendsOnly_fetch hinterceptors it s).trans ih

theorem Step.sends (hinterceptors : ∀ i ∈ c.interceptors, i.SendsNothing) {s s' : Session σ}
    (h : c.Step s s') : s.Sends (IsInBounds c.engine.method) s' := by
  have hsearch := sendsOnly_searchWith hinterceptors
  cases h with
  | search params => exact hsearch .fresh params s
  | searchWith token params => exact hsearch token params s
  | rawSearch token params =>
    refine ((c.engine.sendsOnly_rawSearch params).mono ?_) (s.under token)
    exact fun r hr => ⟨params, hr⟩
  | searchNext page =>
    unfold Client.searchNext
    split
    · exact hsearch .fresh _ s
    · exact .of_eq rfl
  | searchPrevious page =>
    unfold Client.searchPrevious
    split
    · exact hsearch .fresh _ s
    · exact .of_eq rfl
  | next h => exact sends_next hinterceptors h
  | fetch it => exact sendsOnly_fetch hinterceptors it s
  | meanwhile h => exact .of_eq h

/-- Whatever is asked of a client, one thing after another. -/
theorem sends_of_steps (hinterceptors : ∀ i ∈ c.interceptors, i.SendsNothing) {s s' : Session σ}
    (h : Relation.ReflTransGen c.Step s s') : s.Sends (IsInBounds c.engine.method) s' := by
  induction h with
  | refl => exact .of_eq rfl
  | tail _ hstep ih => exact ih.trans (hstep.sends hinterceptors)

/-! ## Parameters that are refused -/

theorem run_searchWith_of_error {params : Params} {cause : InvalidParams}
    (h : params.check = .error cause) (token : Cancellation) (s : Session σ) :
    (c.searchWith token params).run s = (.error (.invalid cause), s.under token) := by
  unfold searchWith
  rw [h]
  rfl

/-- A search with valid parameters goes through the interceptors. -/
theorem run_searchWith_of_ok {params : Params} (h : params.check = .ok ()) (token : Cancellation)
    (s : Session σ) : (c.searchWith token params).run s =
      ((Next.through c.engine c.interceptors).run params).run (s.under token) := by
  unfold searchWith
  rw [h]
  rfl

variable (c)

/-- Some parameters are refused with an error, whatever asks for them, and nothing else happens: no
interceptor is entered, no permit is taken and no request is sent. -/
structure Refuses (params : Params) (error : SearchError) : Prop where
  search : ∀ s, (c.search params).run s = (.error error, s.under .fresh)
  searchWith : ∀ token s, (c.searchWith token params).run s = (.error error, s.under token)
  rawSearch : ∀ token s, (c.rawSearch token params).run s = (.error error, s.under token)
  searchNext : ∀ page s, page.hasMore = true →
    { page.params with start := page.nextStart } = params →
    (c.searchNext page).run s = (.error error, s.under .fresh)
  searchPrevious : ∀ page s, page.hasPrevious = true →
    { page.params with start := page.previousStart } = params →
    (c.searchPrevious page).run s = (.error error, s.under .fresh)
  /-- An iterator keeps the error and is done. The error is reported. -/
  next : ∀ (it : Iter) s, it.buffer = [] → it.done = false → it.params = params →
    it.next c s = some ((none, { it with done := true, lastError := some error }),
      (s.under it.token).see (.event ⟨.warn,
        "Stopping iteration after failed search: " ++ error.message,
        [("start", .number params.start.toNat)]⟩))
  /-- So does the engine, if it is an interceptor that asks for them. -/
  engine : ∀ s, (c.engine.execute params).run s = (.error error, s)

variable {c}

theorem refuses_of_error {params : Params} {cause : InvalidParams}
    (h : params.check = .error cause) : c.Refuses params (.invalid cause) where
  search := run_searchWith_of_error h .fresh
  searchWith := run_searchWith_of_error h
  rawSearch token s := Engine.run_rawSearch_of_error h (s.under token)
  searchNext page s hmore hparams := by
    unfold Client.searchNext
    rw [if_pos hmore, hparams]
    exact run_searchWith_of_error h .fresh s
  searchPrevious page s hprevious hparams := by
    unfold Client.searchPrevious
    rw [if_pos hprevious, hparams]
    exact run_searchWith_of_error h .fresh s
  next it s hbuffer hdone hparams := by
    subst hparams
    rw [Iter.next_of_fetch hbuffer hdone, Iter.run_fetch]
    unfold Iter.fetched
    rw [run_searchWith_of_error h]
    exact Iter.next_of_done hbuffer rfl
  engine := Engine.run_execute_of_error h

/-- **Bounds.** Whatever is asked of a client, and whatever its interceptors make of it, each
request that is sent is one of parameters within bounds. Parameters that are not are refused
wherever they come from, before anything happens. -/
theorem sends_inBounds (c : Client σ) (hinterceptors : ∀ i ∈ c.interceptors, i.SendsNothing) :
    (∀ s s', Relation.ReflTransGen c.Step s s' → s.Sends (IsInBounds c.engine.method) s') ∧
      ∀ params : Params, ¬ params.InBounds → ∃ cause, c.Refuses params (.invalid cause) := by
  refine ⟨fun s s' h => sends_of_steps hinterceptors h, fun params hparams => ?_⟩
  obtain ⟨cause, hcause⟩ := Params.exists_check_eq_error hparams
  exact ⟨cause, refuses_of_error hcause⟩

/-- An interceptor that goes the rest of the way twice, the second time too far. -/
def overreaching : Interceptor σ := fun params next => do
  let _ ← next.run params
  next.run { params with start := 30001 }

/-- A client that reports searches, keeps pages and then overreaches. -/
def straying : Client Script :=
  let settings : Settings Script :=
    { (Settings.default : Settings Script) with
      fittings := [.logging, .cache (.empty .zero 1), .custom overreaching] }
  settings.client Script.transport (fun _ => .ok .default) fun _ => 0

/-- The client searches and pages on. It sends requests within bounds, and the engine refuses what
the last interceptor asks for. -/
theorem sends_inBounds_straying :
    (∀ i ∈ straying.interceptors, i.SendsNothing) ∧
      (∀ page, Engine.recovering.Sends (IsInBounds .get)
        ((straying.searchNext page).run ((straying.search .default).run Engine.recovering).2).2) ∧
      ¬ { Params.default with start := 30001 }.InBounds ∧
      ∃ cause, ∀ s, (straying.engine.execute { Params.default with start := 30001 }).run s =
        (.error (.invalid cause), s) := by
  have hinterceptors : ∀ i ∈ straying.interceptors, i.SendsNothing := by
    refine sendsNothing_interceptorsFrom ?_ 0
    intro i hi such next hnext params
    obtain rfl : i = overreaching := by simpa using hi
    exact .bind (hnext params) fun _ => hnext _
  have hfar : ¬ { Params.default with start := 30001 }.InBounds := by
    rintro ⟨-, hstart⟩
    exact absurd hstart (by decide)
  obtain ⟨hsends, hrefuses⟩ := sends_inBounds straying hinterceptors
  obtain ⟨cause, hcause⟩ := hrefuses _ hfar
  refine ⟨hinterceptors, fun page => ?_, hfar, cause, hcause.engine⟩
  exact hsends _ _ (.tail (.single (.search .default _)) (.searchNext page _))

end Client
end PaperSearch
