import PaperSearch.Client.Session

/-!
# What is seen of a session

Running the steps of a search, and what the trace shows of them: the requests that are sent
(`Happening.exchanges`) and the attempts that are counted (`Happening.counted`).

`Session.Continues` says that a session goes on to a later one. It fixes what was sent and counted
in between, and that token and caches are as before. `run_pause_of_fresh` and
`awaitPermit_of_fresh` are the two waits under a token that nobody fires: both end well, and
nothing but time passes.
-/

namespace PaperSearch

open Time

variable {σ α β : Type}

/-! ## Running the steps of a search -/

/-- A session in which one thing more was seen. -/
def Session.see (s : Session σ) (h : Happening) : Session σ :=
  { s with trace := s.trace ++ [h] }

namespace Search

@[simp] theorem run_pure (a : α) (s : Session σ) : (pure a : Search σ α).run s = (a, s) :=
  rfl

@[simp] theorem run_bind (x : Search σ α) (f : α → Search σ β) (s : Session σ) :
    (x >>= f).run s = (f (x.run s).1).run (x.run s).2 :=
  rfl

@[simp] theorem run_get (s : Session σ) : (get : Search σ (Session σ)).run s = (s, s) :=
  rfl

@[simp] theorem run_set (s s' : Session σ) : (set s' : Search σ PUnit).run s = (⟨⟩, s') :=
  rfl

@[simp] theorem run_record (h : Happening) (s : Session σ) :
    (record h).run s = ((), s.see h) :=
  rfl

@[simp] theorem run_report (level : Level) (message : String) (fields : List (String × Reported))
    (s : Session σ) :
    (report level message fields).run s = ((), s.see (.event ⟨level, message, fields⟩)) :=
  rfl

@[simp] theorem run_breakOff (s : Session σ) :
    (breakOff : Search σ (Result α)).run s = (.error .overflow, s.see .overflow) :=
  rfl

@[simp] theorem run_isCancelled (s : Session σ) :
    (isCancelled : Search σ Bool).run s = (s.token.isFired s.timer, s) :=
  rfl

end Search

/-! ## Views of a trace -/

/-- The number in a field of an event. -/
def LogEvent.number? (e : LogEvent) (name : String) : Option Nat :=
  match e.fields.lookup name with
  | some (.number n) => some n
  | _ => none

namespace Happening

/-- The attempts that a trace tells of, in order: the count of each, and how many there may be. -/
def counted (trace : List Happening) : List (Nat × Nat) :=
  (events trace).filterMap fun e =>
    match e.number? "attempt", e.number? "max_attempts" with
    | some attempt, some most => some (attempt, most)
    | _, _ => none

theorem exchanges_append (trace seen : List Happening) :
    exchanges (trace ++ seen) = exchanges trace ++ exchanges seen :=
  List.filterMap_append

theorem exchangeTimes_append (trace seen : List Happening) :
    exchangeTimes (trace ++ seen) = exchangeTimes trace ++ exchangeTimes seen :=
  List.filterMap_append

theorem counted_append (trace seen : List Happening) :
    counted (trace ++ seen) = counted trace ++ counted seen := by
  unfold counted events
  rw [List.filterMap_append, List.filterMap_append]

end Happening

/-! ## One session after another -/

namespace Session

/-- The second session comes after the first: some requests were sent and some attempts counted in
between, and the token and the caches are the same. -/
structure Continues (s s' : Session σ) (sent : List (Method × String))
    (counted : List (Nat × Nat)) : Prop where
  token : s'.token = s.token
  caches : s'.caches = s.caches
  exchanges : Happening.exchanges s'.trace = Happening.exchanges s.trace ++ sent
  counts : Happening.counted s'.trace = Happening.counted s.trace ++ counted

namespace Continues

variable {s s' s'' : Session σ} {sent sent' : List (Method × String)}
  {counted counted' : List (Nat × Nat)}

theorem trans (h : s.Continues s' sent counted) (h' : s'.Continues s'' sent' counted') :
    s.Continues s'' (sent ++ sent') (counted ++ counted') where
  token := h'.token.trans h.token
  caches := h'.caches.trans h.caches
  exchanges := by rw [h'.exchanges, h.exchanges, List.append_assoc]
  counts := by rw [h'.counts, h.counts, List.append_assoc]

/-- Nothing but time, permits and the server change while nothing is seen. -/
theorem of_eq (token : s'.token = s.token) (caches : s'.caches = s.caches)
    (trace : s'.trace = s.trace) : s.Continues s' [] [] where
  token := token
  caches := caches
  exchanges := by rw [trace, List.append_nil]
  counts := by rw [trace, List.append_nil]

end Continues

/-- Something is seen, perhaps a request or an attempt. -/
theorem continues_see (s : Session σ) (h : Happening) :
    s.Continues (s.see h) (Happening.exchanges [h]) (Happening.counted [h]) where
  token := rfl
  caches := rfl
  exchanges := Happening.exchanges_append s.trace [h]
  counts := Happening.counted_append s.trace [h]

/-! ## Waits that nobody ends early -/

variable {s : Session σ}

theorem isFired_of_fresh (h : s.token = .fresh) : s.token.isFired s.timer = false := by
  rw [h]
  rfl

theorem pause_of_fresh (h : s.token = .fresh) (d : Duration) :
    s.pause d = (true, s.moveTimer (s.timer + d.nanoseconds)) := by
  unfold pause
  rw [h]
  rfl

theorem continues_moveTimer (s : Session σ) (time : Nat) : s.Continues (s.moveTimer time) [] [] :=
  Continues.of_eq rfl rfl rfl

theorem firesWaiting?_of_fresh (h : s.token = .fresh) (wait : Nat) :
    s.firesWaiting? wait = none := by
  unfold firesWaiting?
  rw [h]
  cases s.timing <;> rfl

/-- A permit comes, sooner or later, and nothing is seen meanwhile. -/
theorem awaitPermit_of_fresh (h : s.token = .fresh) :
    ∃ s', s.awaitPermit = (true, s') ∧ s'.server = s.server ∧ s.Continues s' [] [] := by
  unfold awaitPermit
  rw [isFired_of_fresh h]
  simp only [Bool.false_eq_true, if_false]
  split
  · exact ⟨_, rfl, rfl, Continues.of_eq rfl rfl rfl⟩
  · rw [firesWaiting?_of_fresh h]
    exact ⟨_, rfl, rfl, Continues.of_eq rfl rfl rfl⟩

end Session
end PaperSearch
