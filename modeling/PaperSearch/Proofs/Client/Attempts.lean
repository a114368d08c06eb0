import Mathlib.Data.Nat.Find
import PaperSearch.Proofs.Client.Session
import PaperSearch.Transport.Script

/-!
# The attempts of a search

While nobody fires the token, a search goes on to the first outcome that is not a retryable
failure, or to the last attempt that the policy allows. It comes that far if each wait on the way
is one that can be held (`CanWait`). At the first one that is not, it breaks off.

* `run_attempt` is one attempt: one exchange, counted and sent.
* `Reaches` says how far attempts come that go on from a number, and `Ends` and `Breaks` how it ends
  there; `exists_reaches` says that they do one or the other, by induction on the attempts that are
  left.
* A search with valid parameters comes to the exchange that decides it (`rawSearch_of_canWait`), or
  breaks off before (`rawSearch_of_not_canWait`). `rawSearch_performs` puts it together.
-/

namespace PaperSearch

open Time

/-- Without the status that carries a page there is no success. -/
theorem Engine.success?_eq_none {outcome : Outcome} (h : outcome.status? ≠ some 200) :
    Engine.success? outcome = none := by
  cases outcome with
  | error _ => rfl
  | ok response =>
    have hok : response.isOk = false := by
      apply Bool.eq_false_iff.mpr
      intro hok
      exact h (congrArg some (eq_of_beq hok))
    show (if response.isOk then some response else none) = none
    rw [hok]
    rfl

/-- A success is not tried again: its status is no retryable one. -/
theorem Outcome.status?_ne_of_isRetryable {outcome : Outcome} (h : outcome.isRetryable = true) :
    outcome.status? ≠ some 200 := by
  intro hstatus
  cases outcome with
  | error _ => cases hstatus
  | ok response =>
    have h200 : response.status = 200 := Option.some.inj hstatus
    have hretry : PaperSearch.isRetryable none (some response.status) = true := h
    rw [h200] at hretry
    cases hretry

namespace Engine

variable {σ : Type} (e : Engine σ) (encoded : String)

/-! ## The outcomes that a server gives -/

/-- The server after some exchanges of the same request. -/
def serverAfter (server : σ) : Nat → σ
  | 0 => server
  | n + 1 => serverAfter (e.transport.exchange e.method encoded server).2 n

/-- The outcome of an exchange, given how many there were before it. -/
def outcomeAfter (server : σ) (n : Nat) : Outcome :=
  (e.transport.exchange e.method encoded (e.serverAfter encoded server n)).1

/-- How many exchanges a search may take: as many as the policy says, one at least. -/
def limit : Nat :=
  match e.retry with
  | none => 1
  | some p => max 1 p.maxAttempts.toNat

theorem toNat_maxAttempts : e.maxAttempts.toNat = e.limit := by
  unfold maxAttempts limit
  cases e.retry with
  | none => rfl
  | some p =>
    show (if p.maxAttempts ≤ 1 then 1 else p.maxAttempts).toNat = max 1 p.maxAttempts.toNat
    split
    · rename_i h
      have hle : p.maxAttempts.toNat ≤ 1 := UInt32.le_iff_toNat_le.mp h
      rw [Nat.max_eq_left hle]
      rfl
    · rename_i h
      have hlt : ¬ p.maxAttempts.toNat ≤ 1 := fun hle => h (UInt32.le_iff_toNat_le.mpr hle)
      rw [Nat.max_eq_right (by omega)]

theorem limit_pos : 1 ≤ e.limit := by
  unfold limit
  split
  · exact Nat.le_refl 1
  · exact Nat.le_max_left _ _

/-! ## One attempt -/

variable {s : Session σ}

/-- An exchange that nobody interrupts. -/
theorem run_exchange (h : s.token = .fresh) :
    ∃ s', (e.exchange encoded).run s = (some (e.outcomeAfter encoded s.server 0), s') ∧
      s'.server = e.serverAfter encoded s.server 1 ∧
      s.Continues s' [(e.method, encoded)] [] := by
  have hpause := Session.pause_of_fresh (s := s.see (.exchange s.timer e.method encoded)) h
  unfold exchange
  simp only [Search.run_bind, Search.run_isCancelled, Session.isFired_of_fresh h,
    Bool.false_eq_true, if_false, Search.run_get, Search.run_record, hpause, if_true,
    Search.run_set, Search.run_pure]
  have hseen := s.continues_see (.exchange s.timer e.method encoded)
  exact ⟨_, rfl, rfl, hseen.trans (.of_eq rfl rfl rfl)⟩

/-- One attempt: it is counted, and its request is sent. -/
theorem run_attempt (number : UInt32) (h : s.token = .fresh) :
    ∃ s', (e.attempt encoded number).run s = (some (e.outcomeAfter encoded s.server 0), s') ∧
      s'.server = e.serverAfter encoded s.server 1 ∧
      s.Continues s' [(e.method, encoded)] [(number.toNat, e.limit)] := by
  obtain ⟨s₁, hpermit, hserver, hwait⟩ := Session.awaitPermit_of_fresh h
  have htoken : s₁.token = .fresh := hwait.token.trans h
  unfold attempt
  simp only [Search.run_bind, Search.run_get, Search.run_set, hpermit, if_true, Search.run_report]
  obtain ⟨s', hrun, hserver', hgoes⟩ := e.run_exchange encoded
    (s := s₁.see (.event ⟨.debug, "Sending search request",
      [("attempt", .number number.toNat), ("max_attempts", .number e.maxAttempts.toNat),
       ("method", .text e.method.verb)]⟩)) htoken
  refine ⟨s', ?_, ?_, ?_⟩
  · rw [hrun, ← hserver]
    rfl
  · rw [hserver', ← hserver]
    rfl
  · rw [← e.toNat_maxAttempts]
    exact hwait.trans ((s₁.continues_see _).trans hgoes)

/-- What a search gives whose last outcome is this one, at the attempt with this number. -/
def verdict (outcome : Outcome) (number : UInt32) : Result Response :=
  match success? outcome with
  | some response => .ok response
  | none => .error (failure outcome number)

/-- An attempt that ends the search: it succeeds, or fails for good, or is the last. -/
theorem run_attempts_last (number : UInt32) (h : s.token = .fresh)
    (hlast : ¬ (number < e.maxAttempts ∧
      (e.outcomeAfter encoded s.server 0).isRetryable = true)) :
    ∃ s', (e.attempts encoded number).run s =
        (verdict (e.outcomeAfter encoded s.server 0) number, s') ∧
      s'.server = e.serverAfter encoded s.server 1 ∧
      s.Continues s' [(e.method, encoded)] [(number.toNat, e.limit)] := by
  obtain ⟨s₁, hrun, hserver, hgoes⟩ := e.run_attempt encoded number h
  rw [attempts, Search.run_bind, hrun]
  unfold verdict
  cases hsuccess : success? (e.outcomeAfter encoded s.server 0) with
  | some response =>
    simp only [hsuccess]
    split
    · exact ⟨_, rfl, hserver, hgoes.trans (s₁.continues_see _)⟩
    · exact ⟨_, rfl, hserver, hgoes⟩
  | none =>
    simp only [hsuccess]
    rw [dif_neg hlast]
    unfold giveUp
    split
    · exact ⟨_, rfl, hserver, hgoes.trans (s₁.continues_see _)⟩
    · exact ⟨_, rfl, hserver, hgoes⟩

/-- An attempt that may be made again and is: the next one follows after a wait. -/
theorem run_attempts_retry (number : UInt32) (h : s.token = .fresh)
    (hnumber : number < e.maxAttempts)
    (hretry : (e.outcomeAfter encoded s.server 0).isRetryable = true)
    (hwait : (e.wait? number.toNat).isSome = true) :
    ∃ s', (e.attempts encoded number).run s = (e.attempts encoded (number + 1)).run s' ∧
      s'.server = e.serverAfter encoded s.server 1 ∧
      s.Continues s' [(e.method, encoded)] [(number.toNat, e.limit)] := by
  obtain ⟨wait, hwait⟩ := Option.isSome_iff_exists.mp hwait
  obtain ⟨s₁, hrun, hserver, hgoes⟩ := e.run_attempt encoded number h
  rw [attempts, Search.run_bind, hrun]
  simp only [success?_eq_none (Outcome.status?_ne_of_isRetryable hretry)]
  rw [dif_pos ⟨hnumber, hretry⟩, hwait]
  have htoken : s₁.token = .fresh := hgoes.token.trans h
  simp only [Search.run_bind, Search.run_report, Search.run_get, Search.run_set,
    Session.pause_of_fresh (s := s₁.see _) htoken, if_true]
  have hseen := s₁.continues_see (.event ⟨.debug,
    "Retryable failure: " ++ (e.outcomeAfter encoded s.server 0).reason,
    [("attempt", .number number.toNat)]⟩)
  exact ⟨_, rfl, hserver, hgoes.trans (hseen.trans (Session.continues_moveTimer _ _))⟩

/-- An attempt after which the wait would be too long: the search breaks off. -/
theorem run_attempts_overflow (number : UInt32) (h : s.token = .fresh)
    (hnumber : number < e.maxAttempts)
    (hretry : (e.outcomeAfter encoded s.server 0).isRetryable = true)
    (hwait : e.wait? number.toNat = none) :
    ∃ s', (e.attempts encoded number).run s = (.error .overflow, s') ∧
      s'.server = e.serverAfter encoded s.server 1 ∧
      s.Continues s' [(e.method, encoded)] [(number.toNat, e.limit)] := by
  obtain ⟨s₁, hrun, hserver, hgoes⟩ := e.run_attempt encoded number h
  rw [attempts, Search.run_bind, hrun]
  simp only [success?_eq_none (Outcome.status?_ne_of_isRetryable hretry)]
  rw [dif_pos ⟨hnumber, hretry⟩, hwait]
  exact ⟨_, rfl, hserver, hgoes.trans (s₁.continues_see .overflow)⟩

/-! ## A run of attempts -/

/-- How far attempts come that go on from the one with a number: some of them fail in a way that may
pass and are followed by a wait, and one more is made. -/
structure Reaches (number : Nat) (s : Session σ) (failures : Nat) (s' : Session σ) : Prop where
  within : number + failures ≤ e.limit
  retried : ∀ i, i < failures → (e.outcomeAfter encoded s.server i).isRetryable = true
  waited : ∀ i, i < failures → (e.wait? (number + i)).isSome = true
  server : s'.server = e.serverAfter encoded s.server (failures + 1)
  continues : s.Continues s' (List.replicate (failures + 1) (e.method, encoded))
    ((List.range' number (failures + 1)).map fun i => (i, e.limit))

/-- The last of these attempts ends the search. -/
structure Ends (number : Nat) (server : σ) (failures : Nat) (result : Result Response) :
    Prop where
  decided : number + failures < e.limit →
    (e.outcomeAfter encoded server failures).isRetryable = false
  result : ∃ last : UInt32, last.toNat = number + failures ∧
    result = verdict (e.outcomeAfter encoded server failures) last

/-- The last of these attempts should be followed by a wait that cannot be held. -/
structure Breaks (number : Nat) (server : σ) (failures : Nat) (result : Result Response) :
    Prop where
  undecided : number + failures < e.limit
  retryable : (e.outcomeAfter encoded server failures).isRetryable = true
  overflows : e.wait? (number + failures) = none
  result : result = .error .overflow

variable {e encoded}

/-- Where attempts end or break off, one more could only come after a wait that cannot be held. -/
theorem wait?_eq_none {number failures : Nat} {server : σ} {result : Result Response}
    (hlast : Ends e encoded number server failures result ∨
      Breaks e encoded number server failures result) (hlt : number + failures < e.limit)
    (hretry : (e.outcomeAfter encoded server failures).isRetryable = true) :
    e.wait? (number + failures) = none := by
  rcases hlast with hends | hbreaks
  · have hdecided := hends.decided hlt
    rw [hretry] at hdecided
    cases hdecided
  · exact hbreaks.overflows

section Retry

variable {s₁ s' : Session σ} {number failures : Nat} {result : Result Response}

/-- The outcomes from the later server on are those after the first exchange. -/
theorem outcomeAfter_succ (hserver : s₁.server = e.serverAfter encoded s.server 1) (i : Nat) :
    e.outcomeAfter encoded s₁.server i = e.outcomeAfter encoded s.server (i + 1) := by
  rw [hserver]
  rfl

/-- Attempts come one further after one more retryable failure before them. -/
theorem Reaches.retry (hretry : (e.outcomeAfter encoded s.server 0).isRetryable = true)
    (hwait : (e.wait? number).isSome = true)
    (hserver : s₁.server = e.serverAfter encoded s.server 1)
    (hgoes : s.Continues s₁ [(e.method, encoded)] [(number, e.limit)])
    (h : Reaches e encoded (number + 1) s₁ failures s') :
    Reaches e encoded number s (failures + 1) s' := by
  refine ⟨?_, ?_, ?_, ?_, hgoes.trans h.continues⟩
  · have hwithin := h.within
    omega
  · intro i hi
    cases i with
    | zero => exact hretry
    | succ i =>
      rw [← outcomeAfter_succ hserver]
      exact h.retried i (by omega)
  · intro i hi
    cases i with
    | zero => exact hwait
    | succ i =>
      rw [← Nat.add_assoc, Nat.add_right_comm]
      exact h.waited i (by omega)
  · rw [h.server, hserver]
    rfl

theorem Ends.retry (hserver : s₁.server = e.serverAfter encoded s.server 1)
    (h : Ends e encoded (number + 1) s₁.server failures result) :
    Ends e encoded number s.server (failures + 1) result := by
  obtain ⟨hdecided, hresult⟩ := h
  have hshift : number + 1 + failures = number + (failures + 1) := by omega
  rw [hshift, outcomeAfter_succ hserver] at hdecided hresult
  exact ⟨hdecided, hresult⟩

theorem Breaks.retry (hserver : s₁.server = e.serverAfter encoded s.server 1)
    (h : Breaks e encoded (number + 1) s₁.server failures result) :
    Breaks e encoded number s.server (failures + 1) result := by
  obtain ⟨hundecided, hretryable, hoverflows, hresult⟩ := h
  have hshift : number + 1 + failures = number + (failures + 1) := by omega
  rw [hshift] at hundecided hoverflows
  rw [outcomeAfter_succ hserver] at hretryable
  exact ⟨hundecided, hretryable, hoverflows, hresult⟩

end Retry

variable (e encoded)

/-- A single attempt comes to itself. -/
theorem reaches_one {s' : Session σ} {number : Nat} (hnumber : number ≤ e.limit)
    (hserver : s'.server = e.serverAfter encoded s.server 1)
    (hgoes : s.Continues s' [(e.method, encoded)] [(number, e.limit)]) :
    Reaches e encoded number s 0 s' :=
  ⟨hnumber, fun _ hi => absurd hi (Nat.not_lt_zero _), fun _ hi => absurd hi (Nat.not_lt_zero _),
    hserver, hgoes⟩

/-- Wherever attempts go on from, they end or break off. -/
theorem exists_reaches (number : UInt32) (h : s.token = .fresh)
    (hnumber : number.toNat ≤ e.limit) :
    ∃ failures, Reaches e encoded number.toNat s failures
        ((e.attempts encoded number).run s).2 ∧
      (Ends e encoded number.toNat s.server failures ((e.attempts encoded number).run s).1 ∨
        Breaks e encoded number.toNat s.server failures
          ((e.attempts encoded number).run s).1) := by
  -- on how many attempts are left
  induction hleft : e.limit - number.toNat using Nat.strongRecOn generalizing number s with
  | _ left ih =>
    by_cases hmore : number < e.maxAttempts ∧
        (e.outcomeAfter encoded s.server 0).isRetryable = true
    · obtain ⟨hlt, hretry⟩ := hmore
      have hbound : number.toNat < e.limit := by
        rw [← toNat_maxAttempts]
        exact UInt32.lt_iff_toNat_lt.mp hlt
      cases hwait : e.wait? number.toNat with
      | none =>
        obtain ⟨s', hrun, hserver, hgoes⟩ :=
          e.run_attempts_overflow encoded number h hlt hretry hwait
        rw [hrun]
        exact ⟨0, reaches_one e encoded hnumber hserver hgoes,
          .inr ⟨hbound, hretry, hwait, rfl⟩⟩
      | some wait =>
        have hsome : (e.wait? number.toNat).isSome = true := by rw [hwait]; rfl
        obtain ⟨s₁, hrun, hserver, hgoes⟩ :=
          e.run_attempts_retry encoded number h hlt hretry hsome
        have hcount := toNat_add_one hlt
        obtain ⟨failures, hreaches, hresult⟩ := ih (e.limit - (number + 1).toNat) (by omega)
          (number + 1) (hgoes.token.trans h) (by omega) rfl
        rw [hcount] at hreaches hresult
        rw [hrun]
        exact ⟨failures + 1, hreaches.retry hretry hsome hserver hgoes,
          hresult.imp (·.retry hserver) (·.retry hserver)⟩
    · obtain ⟨s', hrun, hserver, hgoes⟩ := e.run_attempts_last encoded number h hmore
      rw [hrun]
      refine ⟨0, reaches_one e encoded hnumber hserver hgoes, .inl ⟨?_, number, rfl, rfl⟩⟩
      intro hlt
      apply Bool.eq_false_iff.mpr
      intro hretry
      refine hmore ⟨UInt32.lt_iff_toNat_lt.mpr ?_, hretry⟩
      rw [toNat_maxAttempts]
      omega

/-! ## A whole search -/

/-- The outcome of the exchange with this number, the first being number one. -/
def outcomeOf (params : Params) (server : σ) (number : Nat) : Outcome :=
  e.outcomeAfter params.encode server (number - 1)

/-- The first exchange whose outcome is not a retryable failure, or else the last one that the
policy allows. -/
structure DecidedAt (params : Params) (server : σ) (n : Nat) : Prop where
  pos : 1 ≤ n
  le_limit : n ≤ e.limit
  before : ∀ i, 1 ≤ i → i < n → (e.outcomeOf params server i).isRetryable = true
  decisive : n < e.limit → (e.outcomeOf params server n).isRetryable = false

/-- There is only one such exchange. -/
theorem DecidedAt.unique {params : Params} {server : σ} {m n : Nat}
    (hm : e.DecidedAt params server m) (hn : e.DecidedAt params server n) : m = n := by
  rcases Nat.lt_trichotomy m n with h | h | h
  · have hdecisive := hm.decisive (Nat.lt_of_lt_of_le h hn.le_limit)
    rw [hn.before m hm.pos h] at hdecisive
    cases hdecisive
  · exact h
  · have hdecisive := hn.decisive (Nat.lt_of_lt_of_le h hm.le_limit)
    rw [hm.before n hn.pos h] at hdecisive
    cases hdecisive

theorem exists_decidedAt (params : Params) (server : σ) : ∃ n, e.DecidedAt params server n := by
  have hexists : ∃ n, 1 ≤ n ∧ (n = e.limit ∨ (e.outcomeOf params server n).isRetryable = false) :=
    ⟨e.limit, e.limit_pos, .inl rfl⟩
  obtain ⟨hpos, hspec⟩ := Nat.find_spec hexists
  refine ⟨Nat.find hexists, hpos, Nat.find_min' hexists ⟨e.limit_pos, .inl rfl⟩, ?_,
    fun hlt => hspec.resolve_left (Nat.ne_of_lt hlt)⟩
  intro i hi hlt
  refine (Bool.not_eq_false _).mp fun hretry => ?_
  exact Nat.find_min hexists hlt ⟨hi, .inr hretry⟩

/-- Every wait on the way to the exchange with this number is one that can be held. -/
def CanWait (n : Nat) : Prop :=
  ∀ i, 1 ≤ i → i < n → (e.wait? i).isSome = true

/-- The last exchange that a search comes to. -/
structure StopsAt (params : Params) (server : σ) (n : Nat) : Prop where
  pos : 1 ≤ n
  le_limit : n ≤ e.limit
  before : ∀ i, 1 ≤ i → i < n → (e.outcomeOf params server i).isRetryable = true
  waits : e.CanWait n
  /-- Where one more attempt is due, the wait before it cannot be held. -/
  last : n < e.limit → (e.outcomeOf params server n).isRetryable = true → e.wait? n = none

/-- What a search sends in `n` exchanges, `s'` being what it leaves. -/
structure Sends (params : Params) (s : Session σ) (n : Nat) (s' : Session σ) : Prop where
  /-- The same request is sent each time. -/
  exchanges : Happening.exchanges s'.trace =
    Happening.exchanges s.trace ++ List.replicate n (e.method, params.encode)
  /-- The server has been asked as often, and for nothing else. -/
  server : s'.server = e.serverAfter params.encode s.server n
  /-- The attempts are counted up from one, without overflow. -/
  counts : Happening.counted s'.trace =
    Happening.counted s.trace ++ (List.range' 1 n).map fun i => (i, e.limit)

/-- What a search does in `n` exchanges, `s'` and `result` being what it leaves and gives. -/
structure Performs (params : Params) (s : Session σ) (n : Nat) (result : Result Response)
    (s' : Session σ) : Prop extends Sends e params s n s' where
  ok : ∀ response, e.outcomeOf params s.server n = .ok response → response.status = 200 →
    result = .ok response
  terminal : (e.outcomeOf params s.server n).status? ≠ some 200 →
    (e.outcomeOf params s.server n).isRetryable = false →
    result = .error (.terminal (e.outcomeOf params s.server n).status?
      (e.outcomeOf params s.server n).reason)
  transient : (e.outcomeOf params s.server n).isRetryable = true →
    n = e.limit ∧ ∃ attempts : UInt32, attempts.toNat = n ∧
      result = .error (.transient (e.outcomeOf params s.server n).status?
        (e.outcomeOf params s.server n).reason attempts)

variable {e}

theorem verdict_ok {response : Response} (h : response.status = 200) (number : UInt32) :
    verdict (.ok response) number = .ok response := by
  have hok : response.isOk = true := beq_iff_eq.mpr h
  show (match (if response.isOk then some response else none) with
    | some response => Except.ok response
    | none => Except.error (failure (.ok response) number)) = .ok response
  rw [hok]
  rfl

theorem verdict_of_not_isRetryable {outcome : Outcome} (hstatus : outcome.status? ≠ some 200)
    (h : outcome.isRetryable = false) (number : UInt32) :
    verdict outcome number = .error (.terminal outcome.status? outcome.reason) := by
  unfold verdict failure
  rw [success?_eq_none hstatus, h]
  rfl

theorem verdict_of_isRetryable {outcome : Outcome} (h : outcome.isRetryable = true)
    (number : UInt32) :
    verdict outcome number = .error (.transient outcome.status? outcome.reason number) := by
  unfold verdict failure
  rw [success?_eq_none (Outcome.status?_ne_of_isRetryable h), h]
  rfl

section First

variable {params : Params} {failures : Nat} {result : Result Response} {s' : Session σ}

/-- Attempts from the first one on are a whole search. -/
theorem Reaches.sends (h : Reaches e params.encode 1 s failures s') :
    e.Sends params s (failures + 1) s' :=
  ⟨h.continues.exchanges, h.server, h.continues.counts⟩

theorem Reaches.before (h : Reaches e params.encode 1 s failures s') (i : Nat) (hpos : 1 ≤ i)
    (hi : i < failures + 1) : (e.outcomeOf params s.server i).isRetryable = true :=
  h.retried (i - 1) (by omega)

theorem Reaches.canWait (h : Reaches e params.encode 1 s failures s') :
    e.CanWait (failures + 1) := by
  intro i hpos hi
  have hwaited := h.waited (i - 1) (by omega)
  rw [Nat.add_sub_cancel' hpos] at hwaited
  exact hwaited

theorem Reaches.stopsAt (h : Reaches e params.encode 1 s failures s')
    (hlast : Ends e params.encode 1 s.server failures result ∨
      Breaks e params.encode 1 s.server failures result) :
    e.StopsAt params s.server (failures + 1) := by
  have hwithin := h.within
  refine ⟨Nat.le_add_left 1 failures, by omega, h.before, h.canWait, fun hlt hretry => ?_⟩
  rw [Nat.add_comm]
  exact wait?_eq_none hlast (by omega) hretry

theorem Reaches.decidedAt (h : Reaches e params.encode 1 s failures s')
    (hends : Ends e params.encode 1 s.server failures result) :
    e.DecidedAt params s.server (failures + 1) := by
  have hwithin := h.within
  exact ⟨Nat.le_add_left 1 failures, by omega, h.before, fun hlt => hends.decided (by omega)⟩

theorem Reaches.performs (h : Reaches e params.encode 1 s failures s')
    (hends : Ends e params.encode 1 s.server failures result) :
    e.Performs params s (failures + 1) result s' := by
  obtain ⟨last, hlast, hresult⟩ := hends.result
  refine ⟨h.sends, ?_, ?_, ?_⟩
  · intro response houtcome hstatus
    have houtcome' : e.outcomeAfter params.encode s.server failures = .ok response := houtcome
    rw [hresult, houtcome', verdict_ok hstatus]
  · intro hstatus hretry
    exact hresult.trans (verdict_of_not_isRetryable hstatus hretry last)
  · intro hretry
    refine ⟨?_, last, by omega, hresult.trans (verdict_of_isRetryable hretry last)⟩
    have hdecided := h.decidedAt hends
    refine Nat.le_antisymm hdecided.le_limit (Nat.not_lt.mp fun hlt => ?_)
    have hdecisive := hdecided.decisive hlt
    rw [hretry] at hdecisive
    cases hdecisive

/-- A search that breaks off has not come to the exchange that would decide it. -/
theorem Reaches.lt_of_decidedAt (h : Reaches e params.encode 1 s failures s')
    (hbreaks : Breaks e params.encode 1 s.server failures result) {n : Nat}
    (hdecided : e.DecidedAt params s.server n) : failures + 1 < n := by
  refine Nat.lt_of_not_le fun hle => ?_
  have hpos := hdecided.pos
  have hundecided := hbreaks.undecided
  have hdecisive := hdecided.decisive (by omega)
  rcases Nat.lt_or_eq_of_le hle with hlt | rfl
  · rw [h.before n hpos hlt] at hdecisive
    cases hdecisive
  · have hretry : (e.outcomeOf params s.server (failures + 1)).isRetryable = true :=
      hbreaks.retryable
    rw [hretry] at hdecisive
    cases hdecisive

theorem Breaks.not_canWait {server : σ} (h : Breaks e params.encode 1 server failures result)
    {n : Nat} (hlt : failures + 1 < n) : ¬ e.CanWait n := by
  intro hcan
  have hsome := hcan (1 + failures) (by omega) (by omega)
  rw [h.overflows] at hsome
  cases hsome

end First

theorem run_rawSearch {params : Params} (hvalid : params.check = .ok ()) (s : Session σ) :
    (e.rawSearch params).run s = (e.attempts params.encode 1).run s := by
  unfold rawSearch
  rw [hvalid]

/-- The page in a response, if there is one. -/
def decoded (e : Engine σ) (params : Params) : Result Response → Result Page
  | .error error => .error error
  | .ok response =>
    match e.decode response with
    | .error fault => .error (.decode fault)
    | .ok page => .ok { page with params }

/-- Decoding changes no session, whatever comes of it. -/
theorem run_execute (params : Params) (s : Session σ) :
    (e.execute params).run s =
      (e.decoded params ((e.rawSearch params).run s).1, ((e.rawSearch params).run s).2) := by
  unfold execute decoded
  rw [Search.run_bind]
  cases ((e.rawSearch params).run s).1 with
  | error error => rfl
  | ok response =>
    dsimp only
    cases e.decode response <;> rfl

/-- A search whose first exchange brings a page makes no second one. -/
theorem run_execute_of_page {params : Params} {response : Response} {page : Page}
    (hvalid : params.check = .ok ()) (hfresh : s.token = .fresh)
    (hexchange : (e.transport.exchange e.method params.encode s.server).1 = .ok response)
    (hstatus : response.status = 200) (hdecode : e.decode response = .ok page) :
    ∃ s', (e.execute params).run s = (.ok { page with params }, s') ∧
      s.Continues s' [(e.method, params.encode)] [(1, e.limit)] := by
  have houtcome : e.outcomeAfter params.encode s.server 0 = .ok response := hexchange
  have hlast : ¬ ((1 : UInt32) < e.maxAttempts ∧
      (e.outcomeAfter params.encode s.server 0).isRetryable = true) := by
    rintro ⟨-, hretry⟩
    refine Outcome.status?_ne_of_isRetryable hretry ?_
    rw [houtcome]
    exact congrArg some hstatus
  obtain ⟨s', hrun, -, hgoes⟩ := e.run_attempts_last params.encode 1 hfresh hlast
  refine ⟨s', ?_, hgoes⟩
  rw [run_execute, run_rawSearch hvalid, hrun, houtcome, verdict_ok hstatus]
  unfold decoded
  dsimp only
  rw [hdecode]

/-- However a search ends, it sends its request up to the last exchange that it comes to. -/
theorem rawSearch_sends (e : Engine σ) (params : Params) (s : Session σ)
    (hvalid : params.check = .ok ()) (hfresh : s.token = .fresh) :
    ∃ n, e.StopsAt params s.server n ∧ e.Sends params s n ((e.rawSearch params).run s).2 := by
  obtain ⟨failures, hreaches, hlast⟩ := e.exists_reaches params.encode 1 hfresh e.limit_pos
  rw [run_rawSearch hvalid]
  exact ⟨failures + 1, hreaches.stopsAt hlast, hreaches.sends⟩

/-- A search whose waits can be held comes to the exchange that decides it. -/
theorem rawSearch_of_canWait {params : Params} (hvalid : params.check = .ok ())
    (hfresh : s.token = .fresh) {n : Nat} (hdecided : e.DecidedAt params s.server n)
    (hcan : e.CanWait n) :
    e.Performs params s n ((e.rawSearch params).run s).1 ((e.rawSearch params).run s).2 := by
  obtain ⟨failures, hreaches, hlast⟩ := e.exists_reaches params.encode 1 hfresh e.limit_pos
  rw [run_rawSearch hvalid]
  rcases hlast with hends | hbreaks
  · obtain rfl := hdecided.unique e (hreaches.decidedAt hends)
    exact hreaches.performs hends
  · exact absurd hcan (hbreaks.not_canWait (hreaches.lt_of_decidedAt hbreaks hdecided))

/-- A search with a wait on its way that cannot be held breaks off at the first of them. -/
theorem rawSearch_of_not_canWait {params : Params} (hvalid : params.check = .ok ())
    (hfresh : s.token = .fresh) {n : Nat} (hdecided : e.DecidedAt params s.server n)
    (hstuck : ¬ e.CanWait n) :
    ∃ i, i < n ∧ e.wait? i = none ∧ e.StopsAt params s.server i ∧
      e.Sends params s i ((e.rawSearch params).run s).2 ∧
      ((e.rawSearch params).run s).1 = .error .overflow := by
  obtain ⟨failures, hreaches, hlast⟩ := e.exists_reaches params.encode 1 hfresh e.limit_pos
  rw [run_rawSearch hvalid]
  rcases hlast with hends | hbreaks
  · obtain rfl := hdecided.unique e (hreaches.decidedAt hends)
    exact absurd hreaches.canWait hstuck
  · refine ⟨failures + 1, hreaches.lt_of_decidedAt hbreaks hdecided, ?_,
      hreaches.stopsAt (.inr hbreaks), hreaches.sends, hbreaks.result⟩
    rw [Nat.add_comm]
    exact hbreaks.overflows

/-- **The retry loop.** A search that nobody cancels is decided by the first outcome that is not a
retryable failure, or by the last that the policy allows. If the waits before it can be held, the
search makes the exchanges up to that one and gives what the last outcome stands for; otherwise it
breaks off at the first wait that cannot. Decoding the response adds no exchange. -/
theorem rawSearch_performs (e : Engine σ) (params : Params) (s : Session σ)
    (hvalid : params.check = .ok ()) (hfresh : s.token = .fresh) :
    ∃ n, e.DecidedAt params s.server n ∧
      (e.CanWait n →
        e.Performs params s n ((e.rawSearch params).run s).1 ((e.rawSearch params).run s).2) ∧
      (¬ e.CanWait n → ∃ i, i < n ∧ e.wait? i = none ∧ e.StopsAt params s.server i ∧
        e.Sends params s i ((e.rawSearch params).run s).2 ∧
        ((e.rawSearch params).run s).1 = .error .overflow) ∧
      ((e.execute params).run s).2 = ((e.rawSearch params).run s).2 ∧
      ∀ response fault, ((e.rawSearch params).run s).1 = .ok response →
        e.decode response = .error fault →
        ((e.execute params).run s).1 = .error (.decode fault) := by
  obtain ⟨n, hdecided⟩ := e.exists_decidedAt params s.server
  refine ⟨n, hdecided, rawSearch_of_canWait hvalid hfresh hdecided,
    rawSearch_of_not_canWait hvalid hfresh hdecided, ?_, ?_⟩
  · rw [run_execute]
  · intro response fault hresponse hfault
    rw [run_execute, hresponse]
    dsimp only [decoded]
    rw [hfault]

/-- An engine over a scripted server that tries as often, and waits as long, as a policy says. -/
def scripted (policy : RetryPolicy) : Engine Script :=
  ⟨Script.transport, fun _ => .ok .default, .get, some policy, fun _ => 0⟩

/-- A session whose server is overloaded, then too slow, and then has an answer. -/
def recovering : Session Script where
  server := ⟨[.ok ⟨503, ""⟩, .error (.timeout "slow"), .ok ⟨200, "page"⟩], none, .zero⟩
  timing := .together
  clock := 0
  timer := 0
  limiter := .ofInterval (.ofSeconds 3)
  token := .fresh
  caches _ := .empty .zero 1
  trace := []

/-- An engine that tries three times. -/
def patient : Engine Script :=
  scripted .default

/-- The server is asked three times, and its third outcome is the answer. -/
theorem rawSearch_performs_recovering :
    (Params.default.check = .ok () ∧ recovering.token = .fresh) ∧
      patient.Performs .default recovering 3 ((patient.rawSearch .default).run recovering).1
        ((patient.rawSearch .default).run recovering).2 ∧
      ((patient.rawSearch .default).run recovering).1 = .ok ⟨200, "page"⟩ := by
  obtain ⟨n, hdecided, hperforms, -⟩ := rawSearch_performs patient .default recovering rfl rfl
  have hthird : patient.DecidedAt .default recovering.server 3 := by
    refine ⟨by decide, Nat.le_refl 3, ?_, fun _ => rfl⟩
    intro i hpos hi
    have hcases : i = 1 ∨ i = 2 := by omega
    rcases hcases with rfl | rfl <;> rfl
  obtain rfl : n = 3 := hdecided.unique patient hthird
  have hcan : patient.CanWait 3 := by
    intro i hpos hi
    have hcases : i = 1 ∨ i = 2 := by omega
    rcases hcases with rfl | rfl <;> decide +kernel
  have hthree := hperforms hcan
  exact ⟨⟨rfl, rfl⟩, hthree, hthree.ok ⟨200, "page"⟩ rfl rfl⟩

/-- A policy with the longest interval that there is. -/
def longestPolicy : RetryPolicy :=
  { RetryPolicy.default with maxAttempts := 2, initialInterval := .longest }.normalized

/-- A session whose server is overloaded and then has an answer. -/
def overloaded : Session Script :=
  { recovering with server := ⟨[.ok ⟨503, ""⟩, .ok ⟨200, "page"⟩], none, .zero⟩ }

/-- The second of two attempts would bring the answer, but the search breaks off after the first: in
seconds the wait between them is rounded up to one that cannot be held. -/
theorem not_rawSearch_performs_longest :
    Params.default.check = .ok () ∧ overloaded.token = .fresh ∧
      (scripted longestPolicy).DecidedAt .default overloaded.server 2 ∧
      (scripted longestPolicy).Sends .default overloaded 1
        (((scripted longestPolicy).rawSearch .default).run overloaded).2 ∧
      (((scripted longestPolicy).rawSearch .default).run overloaded).1 = .error .overflow ∧
      ¬ ∃ n, (scripted longestPolicy).DecidedAt .default overloaded.server n ∧
        (scripted longestPolicy).Performs .default overloaded n
          (((scripted longestPolicy).rawSearch .default).run overloaded).1
          (((scripted longestPolicy).rawSearch .default).run overloaded).2 := by
  have hsecond : (scripted longestPolicy).DecidedAt .default overloaded.server 2 := by
    refine ⟨by decide, Nat.le_refl 2, ?_, fun _ => rfl⟩
    intro i hpos hi
    obtain rfl : i = 1 := by omega
    rfl
  have hnone : (scripted longestPolicy).wait? 1 = none := by decide +kernel
  have hstuck : ¬ (scripted longestPolicy).CanWait 2 := by
    intro hcan
    have hsome := hcan 1 (by decide) (by decide)
    rw [hnone] at hsome
    cases hsome
  obtain ⟨i, hi, -, hstops, hsends, hresult⟩ :=
    rawSearch_of_not_canWait (s := overloaded) rfl rfl hsecond hstuck
  obtain rfl : i = 1 := by
    have hpos := hstops.pos
    omega
  refine ⟨rfl, rfl, hsecond, hsends, hresult, ?_⟩
  rintro ⟨m, hm, hperforms⟩
  obtain rfl := hm.unique _ hsecond
  rw [hperforms.ok ⟨200, "page"⟩ rfl rfl] at hresult
  cases hresult

end Engine
end PaperSearch
