import PaperSearch.Cli.Run

/-!
# Policies that make sense

A policy makes sense (`RetryPolicy.IsSane`) if there is an attempt, the first interval is not zero
and no longer than the longest, and the multiplier is finite and positive. `normalized` gives such a
policy and leaves those that are such as they are (`normalized_eq_self_iff`).

Settings are made from the default ones or from a configuration, by giving a policy and by changing
other things (`Settings.IsMade`); the settings of a command line are made so as well
(`Arguments.isMade_settings`). `IsMade.isSane` is the invariant: whatever policy a client retries by
makes sense.
-/

namespace PaperSearch

open Time

/-! ## Policies -/

namespace RetryPolicy

structure IsSane (p : RetryPolicy) : Prop where
  attempts : 0 < p.maxAttempts
  initial : 0 < p.initialInterval.nanoseconds
  ordered : p.initialInterval.nanoseconds ≤ p.maxInterval.nanoseconds
  finite : p.multiplier.isFinite = true
  positive : 0.0 < p.multiplier

theorem isSaneMultiplier_iff {multiplier : Float} :
    isSaneMultiplier multiplier = true ↔ multiplier.isFinite = true ∧ 0.0 < multiplier := by
  rw [isSaneMultiplier, Bool.and_eq_true, decide_eq_true_eq]

theorem isSane_default : IsSane default :=
  ⟨by decide, by decide, by decide, by decide, by decide⟩

theorem nanoseconds_pos_iff {d : Duration} : 0 < d.nanoseconds ↔ d ≠ .zero := by
  constructor
  · rintro h rfl
    exact Nat.lt_irrefl 0 h
  · intro h
    refine Nat.pos_of_ne_zero fun hzero => h ?_
    rw [Duration.zero, ← hzero]

/-- The longest interval is made as long as the first if it is shorter. -/
theorem le_restored (initial max : Duration) : initial.nanoseconds ≤
    (if max.nanoseconds < initial.nanoseconds then initial else max).nanoseconds := by
  split
  · exact Nat.le_refl _
  · rename_i h
    exact Nat.le_of_not_lt h

/-- What is missing is filled in before the order of the intervals is restored, so that an interval
that is filled in cannot break it. -/
theorem isSane_normalized (p : RetryPolicy) : p.normalized.IsSane where
  attempts := by
    show 0 < if p.maxAttempts = 0 then 1 else p.maxAttempts
    split
    · decide
    · rename_i h
      exact UInt32.pos_iff_ne_zero.mpr h
  initial := by
    show 0 < (if p.initialInterval = .zero then default.initialInterval
      else p.initialInterval).nanoseconds
    split
    · exact isSane_default.initial
    · rename_i h
      exact nanoseconds_pos_iff.mpr h
  ordered := le_restored _ _
  finite := by
    show (if isSaneMultiplier p.multiplier then p.multiplier
      else default.multiplier).isFinite = true
    split
    · rename_i h
      exact (isSaneMultiplier_iff.mp h).1
    · exact isSane_default.finite
  positive := by
    show 0.0 < if isSaneMultiplier p.multiplier then p.multiplier else default.multiplier
    split
    · rename_i h
      exact (isSaneMultiplier_iff.mp h).2
    · exact isSane_default.positive

theorem IsSane.normalized_eq {p : RetryPolicy} (h : p.IsSane) : p.normalized = p := by
  have hattempts : p.maxAttempts ≠ 0 := UInt32.pos_iff_ne_zero.mp h.attempts
  have hinitial : p.initialInterval ≠ .zero := nanoseconds_pos_iff.mp h.initial
  have hmax : p.maxInterval ≠ .zero :=
    nanoseconds_pos_iff.mp (Nat.lt_of_lt_of_le h.initial h.ordered)
  have hmultiplier : isSaneMultiplier p.multiplier = true :=
    isSaneMultiplier_iff.mpr ⟨h.finite, h.positive⟩
  unfold normalized
  dsimp only
  rw [if_neg hattempts, if_neg hinitial, if_neg hmax, if_neg (Nat.not_lt.mpr h.ordered),
    if_pos hmultiplier]

theorem normalized_eq_self_iff {p : RetryPolicy} : p.normalized = p ↔ p.IsSane :=
  ⟨fun h => h ▸ p.isSane_normalized, IsSane.normalized_eq⟩

end RetryPolicy

/-! ## Settings -/

variable {σ : Type}

/-- The ways to settings. -/
inductive Settings.IsMade : Settings σ → Prop
  | default : IsMade .default
  | ofConfig (config : Config) : IsMade config.settings
  | withRetry {s : Settings σ} (h : IsMade s) (policy : RetryPolicy) : IsMade (s.withRetry policy)
  /-- Anything else may be changed. -/
  | change {s s' : Settings σ} (h : IsMade s) (hretry : s'.retry = s.retry) : IsMade s'

theorem Settings.IsMade.isSane {s : Settings σ} (h : s.IsMade) {p : RetryPolicy}
    (hp : s.retry = some p) : p.IsSane := by
  induction h with
  | default => cases hp
  | ofConfig config =>
    obtain ⟨r, -, rfl⟩ := Option.map_eq_some_iff.mp hp
    exact RetryPolicy.isSane_normalized _
  | withRetry _ policy =>
    cases hp
    exact policy.isSane_normalized
  | change _ hretry ih => exact ih (hretry ▸ hp)

namespace Arguments

/-- The policy of a configuration, or the default one. -/
def basePolicy (config : Config) : RetryPolicy :=
  (config.retry.map RetrySettings.toPolicy).getD .default

theorem isSane_basePolicy (config : Config) : (basePolicy config).IsSane := by
  unfold basePolicy
  cases config.retry with
  | none => exact RetryPolicy.isSane_default
  | some r => exact RetryPolicy.isSane_normalized _

theorem toNat_attempts (retries : UInt32) :
    (UInt32.ofNat (min (retries.toNat + 1) (UInt32.size - 1))).toNat =
      min (retries.toNat + 1) 4294967295 :=
  UInt32.toNat_ofNat_of_lt' (Nat.lt_of_le_of_lt (Nat.min_le_right _ _) (by decide))

/-- With more attempts the policy makes as much sense as without. -/
theorem isSane_retryPolicy (config : Config) (retries : UInt32) :
    (retryPolicy config retries).IsSane := by
  obtain ⟨-, hinitial, hordered, hfinite, hpositive⟩ := isSane_basePolicy config
  refine ⟨?_, hinitial, hordered, hfinite, hpositive⟩
  rw [UInt32.lt_iff_toNat_lt]
  show 0 < (UInt32.ofNat (min (retries.toNat + 1) (UInt32.size - 1))).toNat
  rw [toNat_attempts]
  omega

theorem retry_settings (a : Arguments) (config : Config) :
    (a.settings config : Settings σ).retry =
      match a.retries with
      | none => (config.settings : Settings σ).retry
      | some r => some (retryPolicy config r).normalized := by
  unfold settings
  cases a.retries <;> cases a.rateLimitMillis <;> cases a.post <;> rfl

theorem isMade_settings (a : Arguments) (config : Config) :
    (a.settings config : Settings σ).IsMade := by
  have hretry := a.retry_settings (σ := σ) config
  cases hretries : a.retries with
  | none =>
    rw [hretries] at hretry
    exact .change (.ofConfig config) hretry
  | some r =>
    rw [hretries] at hretry
    exact .change ((Settings.IsMade.ofConfig config).withRetry (retryPolicy config r)) hretry

/-- The policy of a command line that says how often to try again. -/
theorem retry_settings_of_retries {a : Arguments} {r : UInt32} (h : a.retries = some r)
    (config : Config) : (a.settings config : Settings σ).retry = some (retryPolicy config r) := by
  rw [retry_settings, h]
  exact congrArg some (isSane_retryPolicy config r).normalized_eq

end Arguments

/-- **Retrying.** What is normalized makes sense, and what makes sense is not changed by it. So
every policy that a client retries by makes sense, however its settings were made: a policy that is
given is normalized, and with arguments that say how often to try again there are as many attempts
and one more, up to the largest number of 32 bits, with the rest of the policy as configured. -/
theorem retry_sane :
    (∀ p : RetryPolicy, p.normalized.IsSane ∧ p.normalized.normalized = p.normalized ∧
      (p.normalized = p ↔ p.IsSane)) ∧
    (∀ s : Settings σ, s.IsMade → ∀ transport decode random,
      (∀ p, (s.client transport decode random).engine.retry = some p → p.IsSane) ∧
        ∀ p, ((s.withRetry p).client transport decode random).engine.retry = some p.normalized) ∧
    ∀ (a : Arguments) (config : Config), (a.settings config : Settings σ).IsMade ∧
      (a.retries = none → (a.settings config : Settings σ).retry =
        config.retry.map RetrySettings.toPolicy) ∧
      ∀ r, a.retries = some r → ∃ p, (a.settings config : Settings σ).retry = some p ∧ p.IsSane ∧
        p.maxAttempts.toNat = min (r.toNat + 1) 4294967295 ∧
        p.initialInterval = (Arguments.basePolicy config).initialInterval ∧
        p.maxInterval = (Arguments.basePolicy config).maxInterval ∧
        p.multiplier = (Arguments.basePolicy config).multiplier := by
  refine ⟨fun p => ⟨p.isSane_normalized, p.isSane_normalized.normalized_eq,
    RetryPolicy.normalized_eq_self_iff⟩, fun s hs transport decode random => ⟨?_, fun p => rfl⟩,
    fun a config => ⟨a.isMade_settings config, fun hnone => ?_, fun r hr => ?_⟩⟩
  · intro p hp
    exact hs.isSane hp
  · rw [a.retry_settings, hnone]
    rfl
  · exact ⟨_, Arguments.retry_settings_of_retries hr config, Arguments.isSane_retryPolicy config r,
      Arguments.toNat_attempts r, rfl, rfl, rfl⟩

/-- No attempts, a first interval that is longer than the longest by default, no longest interval,
and a multiplier that is no number. -/
def senseless : Config :=
  { Config.default with retry := some ⟨0, 40000, 0, 0.0 / 0.0⟩ }

/-- Arguments that ask for as many attempts as can be asked for. -/
def persistent : Arguments :=
  .ofGiven { Given.nothing with retries := some 4294967295 }

/-- The intervals and the multiplier are put right, and one attempt more is too many. -/
theorem retry_sane_persistent :
    persistent.retries = some 4294967295 ∧ (persistent.settings senseless : Settings Unit).IsMade ∧
      ∃ p, (persistent.settings senseless : Settings Unit).retry = some p ∧ p.IsSane ∧
        p.maxAttempts = 4294967295 ∧ p.initialInterval = .ofSeconds 40 ∧
        p.maxInterval = .ofSeconds 40 ∧ p.multiplier = 2.0 := by
  obtain ⟨-, -, harguments⟩ := retry_sane (σ := Unit)
  obtain ⟨hmade, -, hretries⟩ := harguments persistent senseless
  obtain ⟨p, hp, hsane, hattempts, hinitial, hmax, hmultiplier⟩ := hretries _ rfl
  exact ⟨rfl, hmade, p, hp, hsane, UInt32.toNat_inj.mp (hattempts.trans (by decide)),
    hinitial.trans (by decide), hmax.trans (by decide), hmultiplier.trans (by decide)⟩

end PaperSearch
