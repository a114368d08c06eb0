import PaperSearch.Proofs.Text.Cut
import PaperSearch.Proofs.Text.Percent

/-!
# Forms read back

A form is read by splitting it at each `&`, each piece at its first `=`, and by undoing plus signs
and escapes in both parts. What is written is read back (`decode?_formPairs`), because no name and
no value that is written holds a separator: the characters of a form are few (`isFormChar`).
-/

namespace PaperSearch.Text.Form

open Percent

/-! ## Reading -/

/-- In a form a plus sign stands for a space. -/
def plusToSpace (c : Char) : Char :=
  if c = '+' then ' ' else c

/-- The text that a name or a value of a form stands for. -/
def component? (s : List Char) : Option (List Char) :=
  Percent.decode? (s.map plusToSpace)

/-- The name and the value of a piece of a form; the value is empty where there is no `=`. -/
def pair? (piece : List Char) : Option (List Char × List Char) := do
  let parts := (cutAt? (fun c => c == '=') piece).getD (piece, [])
  let name ← component? parts.1
  let value ← component? parts.2
  return (name, value)

/-- The named values of a form, in order; pieces without a character count for nothing. -/
def decode? (text : List Char) : Option (List (List Char × List Char)) :=
  ((text.splitOn '&').filter fun piece => !piece.isEmpty).mapM pair?

/-! ## Characters -/

/-- A character of a name or a value: an ASCII letter or digit, or one of six others. -/
def isComponentChar (c : Char) : Bool :=
  c.isAlphanum || ['*', '-', '.', '_', '+', '%'].contains c

/-- A character of a form. -/
def isFormChar (c : Char) : Bool :=
  isComponentChar c || c == '&' || c == '='

theorem isAlphanum_of_toNat {c : Char} (h : 48 ≤ c.toNat ∧ c.toNat ≤ 57 ∨
    65 ≤ c.toNat ∧ c.toNat ≤ 90 ∨ 97 ≤ c.toNat ∧ c.toNat ≤ 122) : c.isAlphanum = true := by
  show (decide (c.val ≥ 65 ∧ c.val ≤ 90) || (c.val ≥ 97 && c.val ≤ 122) ||
    (c.val ≥ 48 && c.val ≤ 57)) = true
  have hval : c.val.toNat = c.toNat := rfl
  simp only [Bool.or_eq_true, Bool.and_eq_true, decide_eq_true_eq, ge_iff_le,
    UInt32.le_iff_toNat_le, hval]
  show (65 ≤ c.toNat ∧ c.toNat ≤ 90 ∨ 97 ≤ c.toNat ∧ c.toNat ≤ 122) ∨
    48 ≤ c.toNat ∧ c.toNat ≤ 57
  omega

theorem isFormSafe_bounds {b : UInt8} (h : isFormSafe b = true) :
    b.toNat < 128 ∧ b ≠ 37 ∧ b ≠ 43 := by
  simp only [isFormSafe, Bool.or_eq_true, Bool.and_eq_true, decide_eq_true_eq, beq_iff_eq] at h
  refine ⟨by omega, ?_, ?_⟩
  · rintro rfl
    exact absurd h (by decide)
  · rintro rfl
    exact absurd h (by decide)

theorem isComponentChar_of_isFormSafe {b : UInt8} (h : isFormSafe b = true) :
    isComponentChar (Char.ofNat b.toNat) = true := by
  have hchar : (Char.ofNat b.toNat).toNat = b.toNat := toNat_ofNat_of_lt b.toNat_lt
  simp only [isFormSafe, Bool.or_eq_true, Bool.and_eq_true, decide_eq_true_eq, beq_iff_eq] at h
  rcases h with (((halnum | h) | h) | h) | h
  · rw [isComponentChar, isAlphanum_of_toNat (by omega), Bool.true_or]
  all_goals
    rw [h]
    decide

theorem isComponentChar_of_mem_formByte {b : UInt8} {c : Char} (h : c ∈ formByte b) :
    isComponentChar c = true := by
  have hb : b.toNat < 256 := b.toNat_lt
  have hhex : ∀ n, n < 16 → isComponentChar (hexDigit n) = true := by decide
  unfold formByte at h
  split at h
  · rename_i hsafe
    rw [List.mem_singleton.mp h]
    exact isComponentChar_of_isFormSafe hsafe
  · split at h
    · rw [List.mem_singleton.mp h]
      decide
    · simp only [escapeByte, List.mem_cons, List.not_mem_nil, or_false] at h
      rcases h with rfl | rfl | rfl
      · decide
      · exact hhex _ (by omega)
      · exact hhex _ (by omega)

theorem isComponentChar_of_mem_formEncode {s : List Char} {c : Char} (h : c ∈ formEncode s) :
    isComponentChar c = true := by
  obtain ⟨b, -, hb⟩ := List.mem_flatMap.mp h
  exact isComponentChar_of_mem_formByte hb

theorem isFormChar_of_mem_formPairs {pairs : List (List Char × List Char)} {c : Char}
    (h : c ∈ formPairs pairs) : isFormChar c = true := by
  have hcomponent : ∀ {s : List Char}, c ∈ formEncode s → isFormChar c = true := by
    intro s hs
    rw [isFormChar, isComponentChar_of_mem_formEncode hs]
    rfl
  fun_induction formPairs pairs with
  | case1 => cases h
  | case2 name value =>
    simp only [List.mem_append, List.mem_cons] at h
    rcases h with h | rfl | h
    · exact hcomponent h
    · rfl
    · exact hcomponent h
  | case3 name value rest hne ih =>
    simp only [List.mem_append, List.mem_cons] at h
    rcases h with (h | rfl | h) | rfl | h
    · exact hcomponent h
    · rfl
    · exact hcomponent h
    · rfl
    · exact ih h

/-! ## What is written is read back -/

theorem unescape_formByte (b : UInt8) (rest : List UInt8) :
    unescape (utf8 ((formByte b).map plusToSpace) ++ rest) = b :: unescape rest := by
  have hb : b.toNat < 256 := b.toNat_lt
  have hhex : ∀ n, n < 16 → plusToSpace (hexDigit n) = hexDigit n := by decide
  unfold formByte
  split
  · rename_i hsafe
    obtain ⟨hlt, hpercent, hplus⟩ := isFormSafe_bounds hsafe
    have hsame : plusToSpace (Char.ofNat b.toNat) = Char.ofNat b.toNat := by
      refine if_neg fun heq => hplus ?_
      have hnat := congrArg Char.toNat heq
      rw [toNat_ofNat_of_lt hb] at hnat
      exact UInt8.toNat_inj.mp hnat
    rw [List.map_singleton, hsame, unescape_plainByte hlt hpercent]
  · split
    · rename_i hspace
      have hplus : ['+'].map plusToSpace = [Char.ofNat (32 : UInt8).toNat] := by decide
      rw [hspace, hplus]
      exact unescape_plainByte (by decide) (by decide) rest
    · have hsame : (escapeByte b).map plusToSpace = escapeByte b := by
        have hhigh := hhex (b.toNat / 16) (by omega)
        have hlow := hhex (b.toNat % 16) (by omega)
        simp only [escapeByte, List.map_cons, List.map_nil, hhigh, hlow]
        rfl
      rw [hsame, unescape_escapeByte]

theorem component?_formEncode (s : List Char) : component? (formEncode s) = some s := by
  rw [component?, formEncode, List.map_flatMap]
  exact decode?_flatMap unescape_formByte s

/-- A named value as a form writes it. -/
def piece (pair : List Char × List Char) : List Char :=
  formEncode pair.1 ++ '=' :: formEncode pair.2

theorem formPairs_eq (pairs : List (List Char × List Char)) :
    formPairs pairs = ['&'].intercalate (pairs.map piece) := by
  fun_induction formPairs pairs with
  | case1 => rfl
  | case2 name value => simp [piece]
  | case3 name value rest hne ih =>
    cases rest with
    | nil => exact absurd rfl hne
    | cons next rest =>
      rw [ih]
      simp [piece, List.intercalate_cons_cons]

theorem not_mem_piece (pair : List Char × List Char) : '&' ∉ piece pair := by
  have hpart : ∀ s, '&' ∉ formEncode s := fun s h =>
    absurd (isComponentChar_of_mem_formEncode h) (by decide)
  simp [piece, hpart]

theorem pair?_piece (pair : List Char × List Char) : pair? (piece pair) = some pair := by
  have hname : '=' ∉ formEncode pair.1 := fun h =>
    absurd (isComponentChar_of_mem_formEncode h) (by decide)
  rw [pair?, piece, cutAt?_append hname]
  simp [component?_formEncode]

/-- Every list of named values is read back from its form. -/
theorem decode?_formPairs (pairs : List (List Char × List Char)) :
    decode? (formPairs pairs) = some pairs := by
  have hpairs : (pairs.map piece).mapM pair? = some pairs := by
    rw [List.mapM_map]
    have hpiece : pair? ∘ piece = fun pair => some pair := funext pair?_piece
    rw [hpiece]
    exact List.mapM_pure.trans (congrArg some (List.map_id pairs))
  cases pairs with
  | nil => rfl
  | cons pair pairs =>
    have hsplit : (formPairs (pair :: pairs)).splitOn '&' = (pair :: pairs).map piece := by
      rw [formPairs_eq]
      refine List.splitOn_intercalate '&' (fun part hpart => ?_) (by simp)
      obtain ⟨pair, -, rfl⟩ := List.mem_map.mp hpart
      exact not_mem_piece pair
    have hfilter : ((pair :: pairs).map piece).filter (fun part => !part.isEmpty) =
        (pair :: pairs).map piece := by
      refine List.filter_eq_self.mpr fun part hpart => ?_
      obtain ⟨pair, -, rfl⟩ := List.mem_map.mp hpart
      simp [piece]
    rw [decode?, hsplit, hfilter, hpairs]

end PaperSearch.Text.Form
