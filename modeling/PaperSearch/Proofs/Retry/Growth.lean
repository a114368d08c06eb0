import Mathlib.Algebra.Order.Field.Rat
import Mathlib.Tactic.NormNum
import PaperSearch.Proofs.Retry.Sanity
import PaperSearch.Retry.Delay

/-!
# How waits grow

The waits of a policy that makes sense, in exact arithmetic: durations and the multiplier are the
rational numbers that they stand for, and `waitSeconds` computes with these instead of
floating-point numbers.

* `Growth`: two intervals and a multiplier that make sense. `RetryPolicy.IsSane.growth` is that of
  a policy, and every policy that is normalized has one.
* `Growth.wait_eq`: the wait is the first interval times a power of the multiplier, or the longest
  interval if that is less.
* `RetryPolicy.waits_grow_iff`: no wait is longer than the longest interval, but waits never shrink
  only when the multiplier is at least one. Below one they always do.
-/

namespace PaperSearch

open Time Float.Model

/-! ## Exact numbers -/

/-- The rational number that a finite floating-point number is. -/
def Number.exact (x : Float) : ℚ :=
  match x.toModel.unpack with
  | .finite sign mantissa exponent _ => (sign.apply mantissa : ℚ) * 2 ^ exponent
  | _ => 0

theorem Number.exact_pos {x : Float} (hfinite : x.isFinite = true) (hpos : 0.0 < x) :
    0 < Number.exact x := by
  have hlt : UnpackedFloat.lt (.zero .positive) x.toModel.unpack = true := of_decide_eq_true hpos
  have hfinite : x.toModel.unpack.isFinite = true := hfinite
  rw [exact]
  cases hx : x.toModel.unpack with
  | notANumber =>
    rw [hx] at hfinite
    cases hfinite
  | infinity sign =>
    rw [hx] at hfinite
    cases hfinite
  | zero sign =>
    rw [hx] at hlt
    cases hlt
  | finite sign mantissa exponent hmantissa =>
    rw [hx] at hlt
    cases sign with
    | negative => cases hlt
    | positive =>
      have hcast : (0 : ℚ) < ((mantissa : ℤ) : ℚ) := by exact_mod_cast hmantissa
      exact mul_pos hcast (zpow_pos (by norm_num) exponent)

/-- A duration in seconds. -/
def Time.Duration.exactSeconds (d : Duration) : ℚ :=
  d.nanoseconds / 1000000000

theorem Time.Duration.exactSeconds_pos {d : Duration} (h : 0 < d.nanoseconds) :
    0 < d.exactSeconds := by
  have hcast : (0 : ℚ) < d.nanoseconds := Nat.cast_pos.mpr h
  exact div_pos hcast (by norm_num)

theorem Time.Duration.exactSeconds_le {d d' : Duration} (h : d.nanoseconds ≤ d'.nanoseconds) :
    d.exactSeconds ≤ d'.exactSeconds := by
  have hcast : (d.nanoseconds : ℚ) ≤ d'.nanoseconds := Nat.cast_le.mpr h
  exact div_le_div_of_nonneg_right hcast (by norm_num)

/-! ## Powers and bounds -/

theorem powerFrom_eq {M : Type} [Monoid M] (result base : M) (exponent : Nat) :
    powerFrom result base exponent = result * base ^ exponent := by
  induction exponent using Nat.strongRecOn generalizing result base with
  | ind n ih =>
    have hbit : (if n % 2 = 1 then result * base else result) = result * base ^ (n % 2) := by
      rcases Nat.mod_two_eq_zero_or_one n with h | h <;> simp [h]
    have hsplit := Nat.mod_add_div n 2
    rw [powerFrom, hbit]
    split
    · rename_i hzero
      rw [hzero, Nat.mul_zero, Nat.add_zero] at hsplit
      rw [hsplit]
    · rename_i hmore
      rw [ih (n / 2) (by omega), ← pow_two, ← pow_mul, mul_assoc, ← pow_add, hsplit]

theorem power_eq (base : ℚ) (exponent : Nat) : power base exponent = base ^ exponent := by
  rw [power, powerFrom_eq, one_mul]

theorem capped_eq (bound x : ℚ) : capped bound x = min x bound := by
  rw [capped]
  split
  · rename_i h
    exact (min_eq_left h.le).symm
  · rename_i h
    exact (min_eq_right (not_lt.mp h)).symm

/-! ## Growth -/

/-- Intervals in seconds and a multiplier that make sense, as exact numbers. -/
structure Growth where
  initial : ℚ
  longest : ℚ
  multiplier : ℚ
  initial_pos : 0 < initial
  ordered : initial ≤ longest
  multiplier_pos : 0 < multiplier

namespace Growth

variable (g : Growth)

/-- The wait after an attempt in seconds. -/
def wait (attempt : Nat) : ℚ :=
  waitSeconds g.initial g.longest g.multiplier attempt

/-- The exponent of the multiplier in the wait after an attempt. -/
def exponent (attempt : Nat) : Nat :=
  min (attempt - 1) maxExponent

theorem exponent_mono {a b : Nat} (h : a ≤ b) : exponent a ≤ exponent b :=
  min_le_min_right maxExponent (Nat.sub_le_sub_right h 1)

/-- The interval has never grown to nothing, so it is one of the two numbers. -/
theorem wait_eq {attempt : Nat} (h : 1 ≤ attempt) :
    g.wait attempt = min (g.initial * g.multiplier ^ exponent attempt) g.longest := by
  have hgrown : grown g.initial g.multiplier attempt =
      g.initial * g.multiplier ^ exponent attempt := by
    rw [grown, power_eq]
    rfl
  have hpos : 0 < min (g.initial * g.multiplier ^ exponent attempt) g.longest :=
    lt_min (mul_pos g.initial_pos (pow_pos g.multiplier_pos _))
      (lt_of_lt_of_le g.initial_pos g.ordered)
  rw [wait, waitSeconds, if_neg (Nat.one_le_iff_ne_zero.mp h), hgrown, capped_eq]
  exact if_pos hpos

theorem wait_le_longest (attempt : Nat) : g.wait attempt ≤ g.longest := by
  rcases Nat.eq_zero_or_pos attempt with rfl | h
  · have hzero : g.wait 0 = 0 := rfl
    rw [hzero]
    exact (lt_of_lt_of_le g.initial_pos g.ordered).le
  · rw [g.wait_eq h]
    exact min_le_right _ _

theorem wait_one : g.wait 1 = g.initial := by
  have hexponent : exponent 1 = 0 := by decide
  rw [g.wait_eq (Nat.le_refl 1), hexponent, pow_zero, mul_one, min_eq_left g.ordered]

theorem wait_two_le : g.wait 2 ≤ g.initial * g.multiplier := by
  have hexponent : exponent 2 = 1 := by decide
  rw [g.wait_eq (by decide), hexponent, pow_one]
  exact min_le_left _ _

theorem wait_mono (h : 1 ≤ g.multiplier) {a b : Nat} (ha : 1 ≤ a) (hab : a ≤ b) :
    g.wait a ≤ g.wait b := by
  have hpow : g.multiplier ^ exponent a ≤ g.multiplier ^ exponent b :=
    pow_le_pow_right₀ h (exponent_mono hab)
  rw [g.wait_eq ha, g.wait_eq (ha.trans hab)]
  exact min_le_min_right _ (mul_le_mul_of_nonneg_left hpow g.initial_pos.le)

/-- Below one the multiplier never takes the interval to the longest one. -/
theorem wait_eq_of_lt_one (h : g.multiplier < 1) {attempt : Nat} (ha : 1 ≤ attempt) :
    g.wait attempt = g.initial * g.multiplier ^ exponent attempt := by
  have hpow : g.multiplier ^ exponent attempt ≤ 1 := pow_le_one₀ g.multiplier_pos.le h.le
  have hshort : g.initial * g.multiplier ^ exponent attempt ≤ g.initial :=
    mul_le_of_le_one_right g.initial_pos.le hpow
  rw [g.wait_eq ha, min_eq_left (hshort.trans g.ordered)]

/-- Below one every wait is shorter than those before it, as far as exponents go. -/
theorem wait_lt_of_lt_one (h : g.multiplier < 1) {a b : Nat} (ha : 1 ≤ a) (hab : a < b)
    (hb : b ≤ maxExponent + 1) : g.wait b < g.wait a := by
  have hexponent : exponent a < exponent b := by
    rw [exponent, exponent]
    omega
  have hpow : g.multiplier ^ exponent b < g.multiplier ^ exponent a :=
    pow_lt_pow_right_of_lt_one₀ g.multiplier_pos h hexponent
  rw [g.wait_eq_of_lt_one h ha, g.wait_eq_of_lt_one h (ha.trans hab.le)]
  exact mul_lt_mul_of_pos_left hpow g.initial_pos

/-- The first two waits tell whether waits ever shrink. -/
theorem wait_mono_iff :
    (∀ a b, 1 ≤ a → a ≤ b → g.wait a ≤ g.wait b) ↔ 1 ≤ g.multiplier := by
  refine ⟨fun hmono => ?_, fun h a b ha hab => g.wait_mono h ha hab⟩
  have htwo := hmono 1 2 (Nat.le_refl 1) (by decide)
  rw [g.wait_one] at htwo
  have hgrown : g.initial * 1 ≤ g.initial * g.multiplier := by
    rw [mul_one]
    exact htwo.trans g.wait_two_le
  exact le_of_mul_le_mul_left hgrown g.initial_pos

end Growth

/-! ## Policies -/

namespace RetryPolicy

/-- The wait after an attempt in seconds, without its random part, in exact arithmetic. -/
def exactDelay (p : RetryPolicy) (attempt : Nat) : ℚ :=
  waitSeconds p.initialInterval.exactSeconds p.maxInterval.exactSeconds
    (Number.exact p.multiplier) attempt

/-- The intervals and the multiplier of a policy that makes sense. -/
def IsSane.growth {p : RetryPolicy} (h : p.IsSane) : Growth where
  initial := p.initialInterval.exactSeconds
  longest := p.maxInterval.exactSeconds
  multiplier := Number.exact p.multiplier
  initial_pos := Duration.exactSeconds_pos h.initial
  ordered := Duration.exactSeconds_le h.ordered
  multiplier_pos := Number.exact_pos h.finite h.positive

/-- **Waits and their bound.** With any policy that is normalized, the wait after an attempt is the
first interval times a power of the multiplier, but not longer than the longest interval. Waits
never shrink exactly when the multiplier is at least one; below one every wait is shorter than
those before it, as far as exponents go. -/
theorem waits_grow_iff (p : RetryPolicy) :
    (∀ attempt, 1 ≤ attempt → p.normalized.exactDelay attempt =
      min (p.normalized.initialInterval.exactSeconds *
        Number.exact p.normalized.multiplier ^ min (attempt - 1) maxExponent)
        p.normalized.maxInterval.exactSeconds) ∧
    (∀ attempt, p.normalized.exactDelay attempt ≤ p.normalized.maxInterval.exactSeconds) ∧
    ((∀ a b, 1 ≤ a → a ≤ b → p.normalized.exactDelay a ≤ p.normalized.exactDelay b) ↔
      1 ≤ Number.exact p.normalized.multiplier) ∧
    (Number.exact p.normalized.multiplier < 1 →
      ∀ a b, 1 ≤ a → a < b → b ≤ maxExponent + 1 →
        p.normalized.exactDelay b < p.normalized.exactDelay a) :=
  let g := p.isSane_normalized.growth
  ⟨fun _ ha => g.wait_eq ha, g.wait_le_longest, g.wait_mono_iff,
    fun h _ _ ha hab hb => g.wait_lt_of_lt_one h ha hab hb⟩

/-- A policy with a multiplier below one. -/
def halving : RetryPolicy := { default with multiplier := 0.5 }

theorem isSane_halving : halving.IsSane :=
  ⟨by decide, by decide, by decide, by decide, by decide⟩

theorem exact_multiplier_default : Number.exact default.multiplier = 2 := by
  have hunpack : (2.0 : Float).toModel.unpack =
      .finite .positive 4503599627370496 (-51) (by decide) := rfl
  rw [default, Number.exact, hunpack]
  norm_num [UnpackedFloat.Sign.apply]

theorem exact_multiplier_halving : Number.exact halving.multiplier = 1 / 2 := by
  have hunpack : (0.5 : Float).toModel.unpack =
      .finite .positive 4503599627370496 (-53) (by decide) := rfl
  rw [halving, Number.exact, hunpack]
  norm_num [UnpackedFloat.Sign.apply]

theorem waits_grow_iff_default :
    halving.normalized = halving ∧ default.normalized = default ∧
      default.exactDelay 3 ≤ default.exactDelay 40 ∧ halving.exactDelay 40 < halving.exactDelay 3 := by
  have hdefault : default.normalized = default := isSane_default.normalized_eq
  have hhalving : halving.normalized = halving := isSane_halving.normalized_eq
  obtain ⟨-, -, hgrow, -⟩ := waits_grow_iff default
  obtain ⟨-, -, -, hshrink⟩ := waits_grow_iff halving
  rw [hdefault, exact_multiplier_default] at hgrow
  rw [hhalving, exact_multiplier_halving] at hshrink
  exact ⟨hhalving, hdefault, hgrow.mpr (by norm_num) 3 40 (by decide) (by decide),
    hshrink (by norm_num) 3 40 (by decide) (by decide) (by decide)⟩

theorem not_waits_grow_halving :
    (halving.baseDelay 1 = .ofSeconds 1 ∧ halving.baseDelay 2 = .ofMillis 500) ∧
      ¬ ∀ (p : RetryPolicy) (a b : Nat), 1 ≤ a → a ≤ b →
        p.normalized.exactDelay a ≤ p.normalized.exactDelay b ∧
          p.normalized.exactDelay b ≤ p.normalized.maxInterval.exactSeconds := by
  refine ⟨⟨by decide +kernel, by decide +kernel⟩, fun hall => ?_⟩
  obtain ⟨hgrows, -⟩ := hall halving 1 2 (by decide) (by decide)
  rw [isSane_halving.normalized_eq] at hgrows
  have hbelow : isSane_halving.growth.multiplier < 1 := by
    show Number.exact halving.multiplier < 1
    rw [exact_multiplier_halving]
    norm_num
  exact absurd hgrows
    (not_le_of_gt (isSane_halving.growth.wait_lt_of_lt_one hbelow (by decide) (by decide) (by decide)))

end RetryPolicy
end PaperSearch
