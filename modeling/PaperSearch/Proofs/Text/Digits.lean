import PaperSearch.Text.Blank
import PaperSearch.Text.Digits

/-!
# Digits read back

A digit that is written is a digit, and its value is the number it was written for; a number that
is written is read back (`natural?_decimal`, `count?_decimal`).
-/

namespace PaperSearch.Text

theorem toNat_digitChar (n : Nat) : (digitChar n).toNat = 48 + n % 10 := by
  have h : ∀ k, k < 10 → (Char.ofNat (48 + k)).toNat = 48 + k := by decide
  exact h (n % 10) (Nat.mod_lt n (by decide))

@[simp] theorem isDigit_digitChar (n : Nat) : isDigit (digitChar n) = true := by
  simp only [isDigit, toNat_digitChar, Bool.and_eq_true, decide_eq_true_eq]
  omega

@[simp] theorem digitValue_digitChar (n : Nat) : digitValue (digitChar n) = n % 10 := by
  rw [digitValue, toNat_digitChar]
  omega

theorem isBlank_of_isDigit {c : Char} (h : isDigit c = true) : isBlank c = false := by
  simp only [isDigit, Bool.and_eq_true, decide_eq_true_eq] at h
  have hlow : ∀ n, 48 ≤ n → n ≤ 57 → inRanges blankRanges n = false := by
    intro n hfirst hlast
    simp [inRanges, blankRanges]
    omega
  exact hlow c.toNat h.1 h.2

/-- A padded number holds digits only. -/
theorem isDigit_of_mem_padded {places n : Nat} {c : Char} (h : c ∈ padded places n) :
    isDigit c = true := by
  induction places generalizing n with
  | zero => simp [padded] at h
  | succ places ih =>
    rw [padded, List.mem_append, List.mem_singleton] at h
    rcases h with h | rfl
    · exact ih h
    · exact isDigit_digitChar n

theorem digitValue_lt {c : Char} (h : isDigit c = true) : digitValue c < 10 := by
  simp only [isDigit, Bool.and_eq_true, decide_eq_true_eq] at h
  simp only [digitValue]
  omega

/-! ## Numbers -/

/-- A number holds digits only. -/
theorem isDigit_of_mem_decimal {n : Nat} {c : Char} (h : c ∈ decimal n) : isDigit c = true := by
  induction n using Nat.strongRecOn with
  | _ n ih =>
    rw [decimal] at h
    split at h
    · rw [List.mem_singleton.mp h]
      exact isDigit_digitChar n
    · rcases List.mem_append.mp h with h | h
      · exact ih (n / 10) (by omega) h
      · rw [List.mem_singleton.mp h]
        exact isDigit_digitChar n

theorem naturalFrom?_append (n : Nat) (s t : List Char) :
    naturalFrom? n (s ++ t) = (naturalFrom? n s).bind fun m => naturalFrom? m t := by
  induction s generalizing n with
  | nil => rfl
  | cons c s ih =>
    rw [List.cons_append, naturalFrom?, naturalFrom?]
    split
    · exact ih _
    · rfl

theorem naturalFrom?_of_natural? {s : List Char} {n : Nat} (h : natural? s = some n) :
    naturalFrom? 0 s = some n := by
  cases s with
  | nil => cases h
  | cons c s => exact h

theorem isDigit_of_naturalFrom? {m n : Nat} {s : List Char} (h : naturalFrom? m s = some n) :
    ∀ c ∈ s, isDigit c = true := by
  induction s generalizing m with
  | nil => exact List.forall_mem_nil _
  | cons c s ih =>
    rw [naturalFrom?] at h
    split at h
    · exact List.forall_mem_cons.mpr ⟨by assumption, ih h⟩
    · cases h

theorem naturalFrom?_decimal (n : Nat) : naturalFrom? 0 (decimal n) = some n := by
  have hdigit : ∀ m n, naturalFrom? m [digitChar n] = some (10 * m + n % 10) := by
    intro m n
    rw [naturalFrom?, isDigit_digitChar, digitValue_digitChar]
    rfl
  induction n using Nat.strongRecOn with
  | _ n ih =>
    rw [decimal]
    split
    · rw [hdigit, Nat.mod_eq_of_lt (by assumption), Nat.mul_zero, Nat.zero_add]
    · rw [naturalFrom?_append, ih (n / 10) (by omega), Option.bind_some, hdigit, Nat.div_add_mod]

theorem decimal_ne_nil (n : Nat) : decimal n ≠ [] := by
  rw [decimal]
  split
  · exact List.cons_ne_nil _ _
  · exact List.append_ne_nil_of_right_ne_nil _ (List.cons_ne_nil _ _)

/-- A number is read back. -/
theorem natural?_decimal (n : Nat) : natural? (decimal n) = some n := by
  cases hdigits : decimal n with
  | nil => exact absurd hdigits (decimal_ne_nil n)
  | cons c rest =>
    rw [← naturalFrom?_decimal n, hdigits]
    rfl

theorem le_of_naturalFrom? {n m : Nat} {s : List Char} (h : naturalFrom? n s = some m) : n ≤ m := by
  induction s generalizing n with
  | nil => exact Nat.le_of_eq (Option.some.inj h)
  | cons c s ih =>
    rw [naturalFrom?] at h
    split at h
    · have hle := ih h
      omega
    · cases h

/-- A number is written without a leading zero. -/
theorem head?_decimal {n : Nat} (h : 0 < n) : (decimal n).head? ≠ some '0' := by
  induction n using Nat.strongRecOn with
  | _ n ih =>
    rw [decimal]
    split
    · intro hzero
      have hvalue := congrArg Char.toNat (Option.some.inj hzero)
      rw [toNat_digitChar, Nat.mod_eq_of_lt (by assumption)] at hvalue
      have hzero : 48 + n = 48 := hvalue
      omega
    · have hrest := ih (n / 10) (by omega) (by omega)
      rw [List.head?_append]
      cases hdigits : decimal (n / 10) with
      | nil => exact absurd hdigits (decimal_ne_nil _)
      | cons c rest =>
        rw [hdigits] at hrest
        exact hrest

theorem count?_decimal (n : UInt64) : count? (decimal n.toNat) = some n := by
  have hsign : ∀ rest, decimal n.toNat ≠ '+' :: rest := by
    intro rest heq
    have hdigit : isDigit '+' = true := isDigit_of_mem_decimal (heq ▸ List.mem_cons_self)
    exact absurd hdigit (by decide)
  unfold count?
  split
  · rename_i rest heq
    exact absurd heq (hsign rest)
  · dsimp only
    rw [natural?_decimal]
    dsimp only
    rw [if_pos n.toNat_lt, UInt64.ofNat_toNat]

end PaperSearch.Text
