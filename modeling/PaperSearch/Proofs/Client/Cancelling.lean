import PaperSearch.Proofs.Client.Attempts

/-!
# Steps that a token may end

A step of a search heeds the token (`Heeds`) if it is cut short only when the token fires in it,
and otherwise goes as it goes under a token that nobody fires. `Heeds.bind` puts steps together.
The waits heed the token (`heeds_pause`, `heeds_awaitPermit`), so do exchanges, attempts and runs
of attempts, and so does the engine (`Engine.heeds_rawSearch`, `Engine.heeds_execute`).
-/

namespace PaperSearch

open Time

variable {σ α β : Type}

/-! ## Tokens -/

namespace Cancellation

/-- The token has fired before some time: by hand, or by itself. -/
def FiredBefore (t : Cancellation) (time : Nat) : Prop :=
  t.fired = true ∨ ∃ d, t.deadline = some d ∧ d < time

theorem isFired_iff {t : Cancellation} {now : Nat} :
    t.isFired now = true ↔ t.fired = true ∨ ∃ d, t.deadline = some d ∧ d ≤ now := by
  cases h : t.deadline <;> simp [isFired, h]

theorem isFired_of_le {t : Cancellation} {now later : Nat} (h : t.isFired now = true)
    (hle : now ≤ later) : t.isFired later = true := by
  rw [isFired_iff] at h ⊢
  rcases h with hfired | ⟨d, hd, hnow⟩
  · exact Or.inl hfired
  · exact Or.inr ⟨d, hd, Nat.le_trans hnow hle⟩

theorem FiredBefore.isFired {t : Cancellation} {time : Nat} (h : t.FiredBefore time) :
    t.isFired time = true := by
  rcases h with hfired | ⟨d, hd, hlt⟩
  · exact isFired_iff.mpr (Or.inl hfired)
  · exact isFired_iff.mpr (Or.inr ⟨d, hd, Nat.le_of_lt hlt⟩)

/-- What has not fired before a wait, and does not fire in it, fires at its end at the earliest. -/
theorem not_firedBefore_of_firesIn? {t : Cancellation} {now stop : Nat}
    (h : t.isFired now = false) (hnone : t.firesIn? stop = none) : ¬ t.FiredBefore stop := by
  rintro (hfired | ⟨d, hd, hlt⟩)
  · rw [isFired_iff.mpr (Or.inl hfired)] at h
    cases h
  · have hsome : t.firesIn? stop = some d :=
      Option.filter_eq_some_iff.mpr ⟨hd, decide_eq_true hlt⟩
    rw [hnone] at hsome
    cases hsome

/-- What has not fired yet fires by itself later. -/
theorem isFired_of_deadline {t : Cancellation} {now time : Nat} (h : t.isFired now = false)
    (hd : t.deadline = some time) : now ≤ time ∧ t.isFired time = true := by
  have hfired : t.isFired time = true := isFired_iff.mpr (Or.inr ⟨time, hd, Nat.le_refl time⟩)
  refine ⟨?_, hfired⟩
  rcases Nat.le_total now time with hle | hle
  · exact hle
  · rw [isFired_of_le hfired hle] at h
    cases h

end Cancellation

/-! ## Sessions under a token -/

namespace Session

/-- The session with a token that nobody fires. -/
def freed (s : Session σ) : Session σ :=
  { s with token := .fresh }

/-- The second session comes after the first under the same token. Some exchanges were begun in
between, at these times, and none of them after the token had fired. A wait for a permit that the
timer does not show is not waited to its end under a token that fires by itself. -/
structure Proceeds (s s' : Session σ) (begun : List Nat) : Prop where
  token : s'.token = s.token
  timing : s'.timing = s.timing
  timer : s.timer ≤ s'.timer
  clock : s.timing = .apart → s.token.deadline ≠ none → s'.clock = s.clock
  times : Happening.exchangeTimes s'.trace = Happening.exchangeTimes s.trace ++ begun
  unfired : ∀ time ∈ begun, s.timer ≤ time ∧ s.token.isFired time = false

namespace Proceeds

variable {s s' s'' : Session σ} {begun begun' : List Nat}

theorem refl (s : Session σ) : s.Proceeds s [] :=
  ⟨rfl, rfl, Nat.le_refl _, fun _ _ => rfl, (List.append_nil _).symm, nofun⟩

theorem trans (h : s.Proceeds s' begun) (h' : s'.Proceeds s'' begun') :
    s.Proceeds s'' (begun ++ begun') where
  token := h'.token.trans h.token
  timing := h'.timing.trans h.timing
  timer := Nat.le_trans h.timer h'.timer
  clock ht hd := (h'.clock (h.timing.trans ht) (h.token.symm ▸ hd)).trans (h.clock ht hd)
  times := by rw [h'.times, h.times, List.append_assoc]
  unfired time htime := by
    rcases List.mem_append.mp htime with hmem | hmem
    · exact h.unfired time hmem
    · obtain ⟨hle, hfired⟩ := h'.unfired time hmem
      rw [h.token] at hfired
      exact ⟨Nat.le_trans h.timer hle, hfired⟩

/-- Anything may be seen while the token has not fired, and anything but an exchange later. -/
theorem see (s : Session σ) (h : Happening)
    (hh : ∀ time ∈ Happening.exchangeTimes [h], s.timer ≤ time ∧ s.token.isFired time = false) :
    s.Proceeds (s.see h) (Happening.exchangeTimes [h]) where
  token := rfl
  timing := rfl
  timer := Nat.le_refl _
  clock _ _ := rfl
  times := Happening.exchangeTimes_append s.trace [h]
  unfired := hh

/-- Time passes, and the clock with it if the clocks run together. -/
theorem moveTimer {time : Nat} (h : s.timer ≤ time) : s.Proceeds (s.moveTimer time) [] where
  token := rfl
  timing := rfl
  timer := h
  clock ht _ := by
    unfold Session.moveTimer
    rw [ht]
  times := (List.append_nil _).symm
  unfired := nofun

/-- The server changes, and what permits requests. -/
theorem change (s : Session σ) (server : σ) (limiter : Limiter) :
    s.Proceeds { s with server, limiter } [] :=
  ⟨rfl, rfl, Nat.le_refl _, fun _ _ => rfl, (List.append_nil _).symm, nofun⟩

end Proceeds

/-- The token of a session fires before a later session: before the time of its timer, or in a
wait for a permit that only the clock shows. -/
def FiresWithin (s s' : Session σ) : Prop :=
  s.token.FiredBefore s'.timer ∨
    s.timing = .apart ∧ s.token.deadline ≠ none ∧ s'.clock ≠ s.clock

end Session

/-! ## Steps -/

/-- A step goes as the token of the session wants it. Some of its results say that it was cut
short; of the others something else holds, and of the session after them. -/
structure Heeds (cut : α → Prop) (post : α → Session σ → Prop) (x : Search σ α)
    (s : Session σ) : Prop where
  proceeds : ∃ begun, s.Proceeds (x.run s).2 begun
  /-- It is cut short only by the token. -/
  fired : cut (x.run s).1 → s.token.isFired (x.run s).2.timer = true
  /-- It is not cut short only if the token does not fire before its end. -/
  unfired : ¬ cut (x.run s).1 → ¬ s.token.FiredBefore s.timer →
    ¬ s.token.FiredBefore (x.run s).2.timer
  /-- If it is not cut short, then the token makes no difference. -/
  whole : ¬ cut (x.run s).1 → x.run s.freed = ((x.run s).1, (x.run s).2.freed)
  holds : ¬ cut (x.run s).1 → post (x.run s).1 (x.run s).2

namespace Heeds

variable {s s' : Session σ} {cut : α → Prop} {cut' : β → Prop} {post : α → Session σ → Prop}
  {post' : β → Session σ → Prop} {x : Search σ α} {a : α} {begun : List Nat}

/-- A step that the token cuts short. -/
theorem short (hrun : x.run s = (a, s')) (ha : cut a) (hproceeds : s.Proceeds s' begun)
    (hfired : s.token.isFired s'.timer = true) : Heeds cut post x s := by
  refine ⟨⟨begun, ?_⟩, ?_, ?_, ?_, ?_⟩ <;> rw [hrun]
  · exact hproceeds
  · exact fun _ => hfired
  · exact fun h => absurd ha h
  · exact fun h => absurd ha h
  · exact fun h => absurd ha h

/-- A step that goes through. -/
theorem through (hrun : x.run s = (a, s')) (ha : ¬ cut a) (hproceeds : s.Proceeds s' begun)
    (hunfired : ¬ s.token.FiredBefore s.timer → ¬ s.token.FiredBefore s'.timer)
    (hwhole : x.run s.freed = (a, s'.freed)) (hpost : post a s') : Heeds cut post x s := by
  refine ⟨⟨begun, ?_⟩, ?_, ?_, ?_, ?_⟩ <;> rw [hrun]
  · exact hproceeds
  · exact fun h => absurd h ha
  · exact fun _ => hunfired
  · exact fun _ => hwhole
  · exact fun _ => hpost

theorem pure (ha : ¬ cut a) (hpost : post a s) :
    Heeds cut post (Pure.pure a : Search σ α) s :=
  through rfl ha (.refl s) id rfl hpost

/-- A step and what follows from it, if what follows a step that is cut short only says so. -/
theorem bind {f : α → Search σ β} (hx : Heeds cut post x s)
    (hcut : ∀ a s', cut a → ∃ b s'', (f a).run s' = (b, s'') ∧ cut' b ∧ s'.Proceeds s'' [])
    (hwhole : ∀ a s', ¬ cut a → post a s' → Heeds cut' post' (f a) s') :
    Heeds cut' post' (x >>= f) s := by
  rcases hrun : x.run s with ⟨a, s'⟩
  obtain ⟨⟨begun, hproceeds⟩, hfired, hunfired, hsame, hholds⟩ := hx
  rw [hrun] at hproceeds hfired hunfired hsame hholds
  have hbind : (x >>= f).run s = (f a).run s' := by rw [Search.run_bind, hrun]
  by_cases ha : cut a
  · obtain ⟨b, s'', hb, hcut', hgoes⟩ := hcut a s' ha
    exact short (hbind.trans hb) hcut' (hproceeds.trans hgoes)
      (Cancellation.isFired_of_le (hfired ha) hgoes.timer)
  · obtain ⟨⟨begun', hproceeds'⟩, hfired', hunfired', hsame', hholds'⟩ :=
      hwhole a s' ha (hholds ha)
    -- the second step begins under the token that the first one began under
    rw [hproceeds.token] at hfired' hunfired'
    refine ⟨⟨begun ++ begun', ?_⟩, ?_, ?_, ?_, ?_⟩ <;> rw [hbind]
    · exact hproceeds.trans hproceeds'
    · exact hfired'
    · exact fun h hbefore => hunfired' h (hunfired ha hbefore)
    · intro h
      rw [Search.run_bind, hsame ha]
      exact hsame' h
    · exact hholds'

/-- What is only done after a step that goes through. -/
theorem bind_if {wait : Search σ Bool} {y : Search σ β} {waited : Bool → Session σ → Prop} {b : β}
    (hwait : Heeds (· = false) waited wait s) (hb : cut' b)
    (hy : ∀ s', waited true s' → Heeds cut' post' y s') :
    Heeds cut' post' (do if ← wait then y else return b) s := by
  refine hwait.bind ?_ ?_
  · rintro _ s' rfl
    exact ⟨b, s', rfl, hb, .refl s'⟩
  · intro through s' hthrough hwaited
    obtain rfl : through = true := eq_true_of_ne_false hthrough
    exact hy s' hwaited

/-- Something is reported first. -/
theorem record_bind {f : Unit → Search σ β} {h : Happening}
    (hnone : Happening.exchangeTimes [h] = []) (hf : Heeds cut' post' (f ()) (s.see h)) :
    Heeds cut' post' (Search.record h >>= f) s := by
  obtain ⟨⟨begun, hproceeds⟩, hfired, hunfired, hsame, hholds⟩ := hf
  have hseen := Session.Proceeds.see s h fun time htime => by
    rw [hnone] at htime
    exact absurd htime List.not_mem_nil
  rw [hnone] at hseen
  exact ⟨⟨begun, hseen.trans hproceeds⟩, hfired, hunfired, hsame, hholds⟩

theorem report_bind {f : Unit → Search σ β} (level : Level) (message : String)
    (fields : List (String × Reported))
    (hf : Heeds cut' post' (f ()) (s.see (.event ⟨level, message, fields⟩))) :
    Heeds cut' post' (Search.report level message fields >>= f) s :=
  record_bind rfl hf

end Heeds

/-! ## Waits -/

namespace Search

/-- A wait, as a step: false says that it was cut short. -/
def pausing (d : Duration) : Search σ Bool :=
  fun s => s.pause d

/-- A wait for a permit, as a step. -/
def permitted : Search σ Bool :=
  fun s => s.awaitPermit

end Search

theorem heeds_isCancelled (s : Session σ) :
    Heeds (· = true) (fun _ s' => s' = s ∧ s.token.isFired s.timer = false) Search.isCancelled
      s := by
  cases hfired : s.token.isFired s.timer with
  | true =>
    have hrun : Search.isCancelled.run s = (true, s) := congrArg (·, s) hfired
    exact .short hrun rfl (.refl s) hfired
  | false =>
    have hrun : Search.isCancelled.run s = (false, s) := congrArg (·, s) hfired
    exact .through hrun nofun (.refl s) id rfl ⟨rfl, rfl⟩

/-- A wait that is not cut short lasts as long as it should. -/
theorem heeds_pausing (d : Duration) (s : Session σ) :
    Heeds (· = false) (fun _ s' => s' = s.moveTimer (s.timer + d.nanoseconds))
      (Search.pausing d) s := by
  have hrun : (Search.pausing d).run s = s.pause d := rfl
  unfold Session.pause at hrun
  cases hfired : s.token.isFired s.timer with
  | true =>
    rw [if_pos hfired] at hrun
    exact .short hrun rfl (.refl s) hfired
  | false =>
    rw [if_neg (Bool.eq_false_iff.mp hfired)] at hrun
    cases hin : s.token.firesIn? (s.timer + d.nanoseconds) with
    | some time =>
      rw [hin] at hrun
      obtain ⟨hd, -⟩ := Option.filter_eq_some_iff.mp hin
      obtain ⟨hle, hfires⟩ := Cancellation.isFired_of_deadline hfired hd
      exact .short hrun rfl (.moveTimer hle) hfires
    | none =>
      rw [hin] at hrun
      exact .through hrun nofun (.moveTimer (Nat.le_add_right _ _))
        (fun _ => Cancellation.not_firedBefore_of_firesIn? hfired hin)
        (Session.pause_of_fresh (s := s.freed) rfl d) rfl

namespace Session

variable {s : Session σ} {wait time : Nat}

/-- The token fires in a wait for a permit when it fires by itself. -/
theorem deadline_of_firesWaiting? (h : s.firesWaiting? wait = some time) :
    s.token.deadline = some time := by
  unfold firesWaiting? at h
  split at h
  · exact (Option.filter_eq_some_iff.mp h).1
  · exact h

/-- How long the next permit takes. -/
def permitWait (s : Session σ) : Nat :=
  s.limiter.readyAt s.clock - s.clock

/-- The session after a wait for a permit that nobody ends early. -/
def afterPermit (s : Session σ) : Session σ :=
  { s with
    clock := s.limiter.readyAt s.clock
    timer := match s.timing with
      | .together => s.timer + s.permitWait
      | .apart => s.timer
    limiter := s.limiter.take (s.limiter.readyAt s.clock) }

theorem awaitPermit_of_ready (hfired : s.token.isFired s.timer = false)
    (hready : s.limiter.readyAt s.clock = s.clock) :
    s.awaitPermit = (true, { s with limiter := s.limiter.take s.clock }) := by
  simp only [awaitPermit, hfired, hready, Bool.false_eq_true, if_false, if_true]

theorem awaitPermit_of_not_ready (hfired : s.token.isFired s.timer = false)
    (hready : s.limiter.readyAt s.clock ≠ s.clock) :
    s.awaitPermit = match s.firesWaiting? s.permitWait with
      | some time => (false, s.moveTimer time)
      | none => (true, s.afterPermit) := by
  simp only [awaitPermit, hfired, hready, Bool.false_eq_true, if_false]
  rfl

/-- A permit that is not there at once is waited for, while the token does not fire. -/
theorem proceeds_afterPermit (hnone : s.firesWaiting? s.permitWait = none) :
    s.Proceeds s.afterPermit [] where
  token := rfl
  timing := rfl
  timer := by
    show s.timer ≤ match s.timing with
      | .together => s.timer + s.permitWait
      | .apart => s.timer
    split
    · exact Nat.le_add_right _ _
    · exact Nat.le_refl _
  clock ht hd := by
    unfold firesWaiting? at hnone
    rw [ht] at hnone
    exact absurd hnone hd
  times := (List.append_nil _).symm
  unfired := nofun

theorem not_firedBefore_afterPermit (hfired : s.token.isFired s.timer = false)
    (hnone : s.firesWaiting? s.permitWait = none) (hbefore : ¬ s.token.FiredBefore s.timer) :
    ¬ s.token.FiredBefore s.afterPermit.timer := by
  unfold firesWaiting? at hnone
  show ¬ s.token.FiredBefore (match s.timing with
    | .together => s.timer + s.permitWait
    | .apart => s.timer)
  cases htiming : s.timing with
  | together =>
    rw [htiming] at hnone
    exact Cancellation.not_firedBefore_of_firesIn? hfired hnone
  | apart => exact hbefore

end Session

theorem heeds_permitted (s : Session σ) :
    Heeds (· = false) (fun _ _ => True) Search.permitted s := by
  have hrun : Search.permitted.run s = s.awaitPermit := rfl
  cases hfired : s.token.isFired s.timer with
  | true =>
    have hawait : s.awaitPermit = (false, s) := if_pos hfired
    exact .short (hrun.trans hawait) rfl (.refl s) hfired
  | false =>
    by_cases hready : s.limiter.readyAt s.clock = s.clock
    · rw [Session.awaitPermit_of_ready hfired hready] at hrun
      have hfree := Session.awaitPermit_of_ready (s := s.freed) rfl hready
      exact .through hrun nofun (.change s _ _) id hfree trivial
    · rw [Session.awaitPermit_of_not_ready hfired hready] at hrun
      have hfree := Session.awaitPermit_of_not_ready (s := s.freed) rfl hready
      rw [Session.firesWaiting?_of_fresh rfl] at hfree
      cases hin : s.firesWaiting? s.permitWait with
      | some time =>
        rw [hin] at hrun
        obtain ⟨hle, hfires⟩ :=
          Cancellation.isFired_of_deadline hfired (Session.deadline_of_firesWaiting? hin)
        exact .short hrun rfl (.moveTimer hle) hfires
      | none =>
        rw [hin] at hrun
        exact .through hrun nofun (Session.proceeds_afterPermit hin)
          (Session.not_firedBefore_afterPermit hfired hin) hfree trivial

/-! ## The engine -/

namespace Engine

variable (e : Engine σ) (encoded : String)

/-- An outcome has just been taken: the last exchange was begun as long ago as it takes, and the
token had not fired then. -/
def Took (outcome : Outcome) (s : Session σ) : Prop :=
  ∃ started server, (Happening.exchangeTimes s.trace).getLast? = some started ∧
    s.token.isFired started = false ∧
    s.timer = started + (e.transport.duration e.method encoded server).nanoseconds ∧
    (outcome, s.server) = e.transport.exchange e.method encoded server

variable {e encoded} in
theorem Took.see {outcome : Outcome} {s : Session σ} (h : e.Took encoded outcome s)
    {seen : Happening} (hnone : Happening.exchangeTimes [seen] = []) :
    e.Took encoded outcome (s.see seen) := by
  obtain ⟨started, server, hlast, htaken⟩ := h
  have htimes := Happening.exchangeTimes_append s.trace [seen]
  rw [hnone, List.append_nil] at htimes
  exact ⟨started, server, (congrArg List.getLast? htimes).trans hlast, htaken⟩

/-- The first step of an exchange. It gives how long the exchange takes. -/
def send : Search σ Duration := do
  Search.record (.exchange (← get).timer e.method encoded)
  return e.transport.duration e.method encoded (← get).server

/-- The last step of an exchange: its outcome is taken, unless it was cut short. -/
def receive (ended : Bool) : Search σ (Option Outcome) := do
  let s ← get
  if ended then
    let (outcome, server) := e.transport.exchange e.method encoded s.server
    set { s with server }
    return some outcome
  else
    set { s with server := e.transport.abandon e.method encoded s.server }
    return none

theorem exchange_eq :
    e.exchange encoded = (do
      if ← Search.isCancelled then return none
      e.receive encoded (← Search.pausing (← e.send encoded))) := by
  unfold exchange
  refine bind_congr fun fired => ?_
  cases fired with
  | true => rfl
  | false =>
    funext s
    -- the two sides set the session at different steps, but to the same
    show (if ((s.see (.exchange s.timer e.method encoded)).pause
          (e.transport.duration e.method encoded s.server)).1 then _ else _ : Search σ _) _ =
      (if ((s.see (.exchange s.timer e.method encoded)).pause
          (e.transport.duration e.method encoded s.server)).1 then _ else _ : Search σ _) _
    split
    · rfl
    · rfl

theorem heeds_send {s : Session σ} (h : s.token.isFired s.timer = false) :
    Heeds (fun _ => False)
      (fun d s' => d = e.transport.duration e.method encoded s.server ∧
        s' = s.see (.exchange s.timer e.method encoded)) (e.send encoded) s := by
  have hseen : s.Proceeds (s.see (.exchange s.timer e.method encoded)) [s.timer] := by
    refine .see s _ fun time htime => ?_
    obtain rfl : time = s.timer := List.mem_singleton.mp htime
    exact ⟨Nat.le_refl _, h⟩
  exact .through rfl id hseen id rfl ⟨rfl, rfl⟩

/-- The outcome of an exchange is taken when the exchange is over. -/
theorem took_receive {s : Session σ} (h : s.token.isFired s.timer = false) :
    e.Took encoded (e.transport.exchange e.method encoded s.server).1
      { (s.see (.exchange s.timer e.method encoded)).moveTimer
          (s.timer + (e.transport.duration e.method encoded s.server).nanoseconds) with
        server := (e.transport.exchange e.method encoded s.server).2 } := by
  have htimes := Happening.exchangeTimes_append s.trace [.exchange s.timer e.method encoded]
  have hlast := (congrArg List.getLast? htimes).trans List.getLast?_concat
  exact ⟨s.timer, s.server, hlast, h, rfl, rfl⟩

theorem heeds_exchange (s : Session σ) :
    Heeds (· = none) (fun outcome? s' => ∃ outcome, outcome? = some outcome ∧
      e.Took encoded outcome s') (e.exchange encoded) s := by
  rw [exchange_eq]
  refine (heeds_isCancelled s).bind ?_ ?_
  · rintro _ s' rfl
    exact ⟨none, s', rfl, rfl, .refl s'⟩
  · rintro fired _ hfired ⟨rfl, hunfired⟩
    rw [Bool.eq_false_iff.mpr hfired]
    refine (e.heeds_send encoded hunfired).bind (fun _ _ => nofun) ?_
    rintro _ _ - ⟨rfl, rfl⟩
    refine (heeds_pausing _ _).bind ?_ ?_
    · rintro _ s' rfl
      exact ⟨none, _, rfl, rfl, .change s' _ _⟩
    · rintro ended _ hended rfl
      rw [eq_true_of_ne_false hended]
      exact .through rfl nofun (.change _ _ _) id rfl ⟨_, rfl, e.took_receive encoded hunfired⟩

theorem attempt_eq (number : UInt32) :
    e.attempt encoded number = (do
      if ← Search.permitted then
        Search.report .debug "Sending search request"
          [("attempt", .number number.toNat), ("max_attempts", .number e.maxAttempts.toNat),
           ("method", .text e.method.verb)]
        e.exchange encoded
      else return none) :=
  rfl

theorem heeds_attempt (number : UInt32) (s : Session σ) :
    Heeds (· = none) (fun outcome? s' => ∃ outcome, outcome? = some outcome ∧
      e.Took encoded outcome s') (e.attempt encoded number) s := by
  rw [attempt_eq]
  exact (heeds_permitted s).bind_if rfl fun _ _ => .report_bind _ _ _ (e.heeds_exchange encoded _)

/-- A search that is not cancelled gives something else, when it has taken an outcome. -/
abbrev HeedsSearch (x : Search σ (Result α)) (s : Session σ) : Prop :=
  Heeds (· = .error .cancelled) (fun _ s' => ∃ outcome, e.Took encoded outcome s') x s

/-- An answer is no cancellation. -/
theorem ok_ne_cancelled (a : α) : (.ok a : Result α) ≠ .error .cancelled := by
  intro h
  cases h

variable {e encoded}

theorem heedsSearch_giveUp {outcome : Outcome} {s : Session σ} (h : e.Took encoded outcome s)
    (number : UInt32) : e.HeedsSearch encoded (giveUp outcome number) s := by
  have hfailure : (.error (failure outcome number) : Result Response) ≠ .error .cancelled := by
    unfold failure
    split
    · exact nofun
    · exact nofun
  unfold giveUp
  split
  · exact .report_bind _ _ _ (.pure hfailure ⟨outcome, h.see rfl⟩)
  · exact .pure hfailure ⟨outcome, h⟩

variable (e encoded)

theorem heeds_attempts (number : UInt32) (s : Session σ) :
    e.HeedsSearch encoded (e.attempts encoded number) s := by
  induction number using attempts.induct generalizing s with
  | e => exact e
  | case1 number ih =>
    -- the attempt may be cut short, and so may the wait before the next one
    rw [attempts]
    refine (e.heeds_attempt encoded number s).bind ?_ ?_
    · rintro _ s' rfl
      exact ⟨.error .cancelled, s', rfl, rfl, .refl s'⟩
    · rintro _ s' - ⟨outcome, rfl, htook⟩
      dsimp only
      cases success? outcome with
      | some response =>
        dsimp only
        split
        · exact .report_bind _ _ _ (.pure (ok_ne_cancelled response) ⟨outcome, htook.see rfl⟩)
        · exact .pure (ok_ne_cancelled response) ⟨outcome, htook⟩
      | none =>
        dsimp only
        split
        · rename_i hretry
          split
          · exact .record_bind rfl (.pure nofun ⟨outcome, htook.see rfl⟩)
          · rename_i wait _
            have hwait := heeds_pausing wait
              (s'.see (.event ⟨.debug, "Retryable failure: " ++ outcome.reason,
                [("attempt", .number number.toNat)]⟩))
            exact .report_bind _ _ _ (hwait.bind_if rfl fun s'' _ => ih outcome hretry s'')
        · exact heedsSearch_giveUp htook number

/-- A search with valid parameters. Others are refused, with no outcome taken. -/
theorem heeds_rawSearch {params : Params} (hvalid : params.check = .ok ()) (s : Session σ) :
    e.HeedsSearch params.encode (e.rawSearch params) s := by
  unfold rawSearch
  rw [hvalid]
  exact e.heeds_attempts _ _ s

theorem heeds_execute {params : Params} (hvalid : params.check = .ok ()) (s : Session σ) :
    e.HeedsSearch params.encode (e.execute params) s := by
  refine (e.heeds_rawSearch hvalid s).bind ?_ ?_
  · rintro _ s' rfl
    exact ⟨.error .cancelled, s', rfl, rfl, .refl s'⟩
  · intro result s' hresult htook
    cases result with
    | error error =>
      exact .pure (fun h => hresult (congrArg Except.error (Except.error.inj h))) htook
    | ok response =>
      dsimp only
      cases e.decode response with
      | error fault => exact .pure nofun htook
      | ok page => exact .pure (ok_ne_cancelled _) htook

/-! ## Searches that a token stops -/

/-- What a token does to a search from a session, `r` being what the search gives and leaves, and
`free` the same under a token that nobody fires. -/
structure Stops (s : Session σ) (r free : Result α × Session σ) : Prop where
  /-- If the token has fired before the search, then the search does nothing at all. -/
  before : s.token.isFired s.timer = true → r = (.error .cancelled, s)
  token : r.2.token = s.token
  /-- No exchange is begun after the token has fired. -/
  exchanges : ∃ begun, Happening.exchangeTimes r.2.trace =
    Happening.exchangeTimes s.trace ++ begun ∧ ∀ time ∈ begun, s.token.isFired time = false
  /-- If the token fires before the search is over, then the search is cancelled. -/
  during : s.token.FiredBefore r.2.timer → r.1 = .error .cancelled
  /-- A search that is not cancelled is over when the outcome of its last exchange is taken. -/
  taken : r.1 ≠ .error .cancelled → ∃ outcome, e.Took encoded outcome r.2
  /-- The token may fire at any point of the search as it would go if nobody fired the token. -/
  interrupted : s.FiresWithin free.2 → r.1 = .error .cancelled
  /-- A search that is not cancelled went as if nobody could cancel it. -/
  undisturbed : r.1 ≠ .error .cancelled → free = (r.1, r.2.freed)
  /-- A search is cancelled only by the token. -/
  cancelled : r.1 = .error .cancelled → s.token.isFired r.2.timer = true

variable {e encoded}

theorem stops_of_heeds {x : Search σ (Result α)} {s : Session σ} (h : e.HeedsSearch encoded x s)
    (hbefore : s.token.isFired s.timer = true → x.run s = (.error .cancelled, s)) :
    e.Stops encoded s (x.run s) (x.run s.freed) := by
  obtain ⟨begun, hproceeds⟩ := h.proceeds
  have hunfired : (x.run s).1 ≠ .error .cancelled →
      ¬ s.token.FiredBefore (x.run s).2.timer := by
    intro hne
    refine h.unfired hne fun hfired => hne ?_
    rw [hbefore hfired.isFired]
  refine ⟨hbefore, hproceeds.token, ?_, ?_, h.holds, ?_, h.whole, h.fired⟩
  · exact ⟨begun, hproceeds.times, fun time htime => (hproceeds.unfired time htime).2⟩
  · intro hfired
    apply Classical.byContradiction
    intro hne
    exact hunfired hne hfired
  · intro hwithin
    apply Classical.byContradiction
    intro hne
    -- not cancelled, the search ends as it would if nobody fired the token
    rw [h.whole hne] at hwithin
    rcases hwithin with hfired | ⟨htiming, hdeadline, hclock⟩
    · exact hunfired hne hfired
    · exact hclock (hproceeds.clock htiming hdeadline)

variable (e encoded)

theorem run_attempts_of_isFired (number : UInt32) {s : Session σ}
    (h : s.token.isFired s.timer = true) :
    (e.attempts encoded number).run s = (.error .cancelled, s) := by
  have hawait : Search.permitted.run s = (false, s) := if_pos h
  have hattempt : (e.attempt encoded number).run s = (none, s) := by
    rw [attempt_eq, Search.run_bind, hawait]
    rfl
  rw [attempts, Search.run_bind, hattempt]
  rfl

theorem stops_rawSearch {params : Params} (hvalid : params.check = .ok ()) (s : Session σ) :
    e.Stops params.encode s ((e.rawSearch params).run s) ((e.rawSearch params).run s.freed) := by
  refine stops_of_heeds (e.heeds_rawSearch hvalid s) fun hfired => ?_
  rw [run_rawSearch hvalid, e.run_attempts_of_isFired _ _ hfired]

theorem stops_execute {params : Params} (hvalid : params.check = .ok ()) (s : Session σ) :
    e.Stops params.encode s ((e.execute params).run s) ((e.execute params).run s.freed) := by
  refine stops_of_heeds (e.heeds_execute hvalid s) fun hfired => ?_
  rw [run_execute, run_rawSearch hvalid, e.run_attempts_of_isFired _ _ hfired]
  rfl

end Engine
end PaperSearch
