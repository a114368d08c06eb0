import Mathlib.Data.List.Forall2
import PaperSearch.Query.Field

/-!
# Keywords in any letter case

A word is read as an operator exactly when it is the operator's keyword with each letter in upper or
in lower case (`Operator.ofKeyword?_eq_some_iff`). Only letters of ASCII have cases here.
-/

namespace PaperSearch.Operator

/-- The word is the operator's keyword, each letter in upper or in lower case. -/
def SpelledBy (op : Operator) (w : List Char) : Prop :=
  List.Forall₂ (fun c letter => c = letter ∨ c = letter.toLower) w op.keyword

theorem toNat_toUpper (c : Char) :
    c.toUpper.toNat = if 97 ≤ c.toNat ∧ c.toNat ≤ 122 then c.toNat - 32 else c.toNat := by
  have hiff : ('a'.val ≤ c.val ∧ c.val ≤ 'z'.val) ↔ 97 ≤ c.toNat ∧ c.toNat ≤ 122 := Iff.rfl
  unfold Char.toUpper
  by_cases h : 97 ≤ c.toNat ∧ c.toNat ≤ 122
  · rw [if_pos h, dif_pos (hiff.mpr h)]
    show (c.val + ('A'.val - 'a'.val)).toNat = c.toNat - 32
    rw [UInt32.toNat_add]
    show (c.toNat + 4294967264) % 4294967296 = c.toNat - 32
    omega
  · rw [if_neg h, dif_neg (mt hiff.mp h)]

/-- A letter is the upper case of itself and of its lower case, and of nothing else. -/
theorem toUpper_eq_iff {op : Operator} {c letter : Char} (h : letter ∈ op.keyword) :
    c.toUpper = letter ↔ c = letter ∨ c = letter.toLower := by
  have hletters : ∀ d ∈ op.keyword,
      (65 ≤ d.toNat && d.toNat ≤ 90 && d.toLower.toNat == d.toNat + 32) = true := by
    apply List.all_eq_true.mp
    cases op <;> rfl
  have hcode := hletters letter h
  simp only [Bool.and_eq_true, decide_eq_true_eq, beq_iff_eq] at hcode
  rw [← Char.toNat_inj, ← Char.toNat_inj, ← Char.toNat_inj, toNat_toUpper]
  split <;> omega

theorem spelledBy_iff {op : Operator} {w : List Char} :
    op.SpelledBy w ↔ w.map Char.toUpper = op.keyword := by
  rw [← List.forall₂_eq_eq_eq, List.forall₂_map_left_iff, SpelledBy, List.forall₂_iff_zip,
    List.forall₂_iff_zip]
  have hletter : ∀ {c letter : Char}, (c, letter) ∈ w.zip op.keyword →
      (c.toUpper = letter ↔ c = letter ∨ c = letter.toLower) :=
    fun h => toUpper_eq_iff (List.of_mem_zip h).2
  exact and_congr_right fun _ =>
    ⟨fun h _ _ hmem => (hletter hmem).mpr (h hmem), fun h _ _ hmem => (hletter hmem).mp (h hmem)⟩

/-- A word is read as an operator exactly when it is its keyword in any mixture of cases. -/
theorem ofKeyword?_eq_some_iff {w : List Char} {op : Operator} :
    ofKeyword? w = some op ↔ op.SpelledBy w := by
  rw [spelledBy_iff]
  constructor
  · intro h
    simp only [ofKeyword?] at h
    repeat' split at h
    all_goals first | (cases h; assumption) | cases h
  · intro h
    simp only [ofKeyword?, h]
    cases op <;> decide

end PaperSearch.Operator
