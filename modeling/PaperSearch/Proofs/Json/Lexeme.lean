import Mathlib.Tactic.SplitIfs
import PaperSearch.Json.Lexeme
import PaperSearch.Json.Printer
import PaperSearch.Proofs.Text.Cut
import PaperSearch.Proofs.Text.Digits

/-!
# Lexemes read back

Lexemes that are written one after another, with as much white space as one likes before each of
them (`Lexeme.Laid`), are read back (`Lexeme.ofText?_of_laid`). Punctuation and strings show by
themselves where they end. A number and a name end where something begins that cannot go on with
them (`Lexeme.EndsWord`).

* `scan?_quote` reads a string: each of its characters by `scan?_escapeChar`.
* `number?_integer` reads a number, by what its digits say (`addDigits_of_naturalFrom?`).
-/

namespace PaperSearch.Json

/-- An integer that 64 bits hold, with a sign or without one. -/
def Holds64 (n : Int) : Prop :=
  -9223372036854775808 ≤ n ∧ n ≤ 18446744073709551615

namespace Lexeme

open Text

/-! ## Integers -/

theorem addDigits_of_naturalFrom? {n m : Nat} {s : List Char} (h : naturalFrom? n s = some m)
    (hm : m < UInt64.size) : addDigits n s = (m, []) := by
  induction s generalizing n with
  | nil => rw [addDigits, Option.some.inj h]
  | cons c s ih =>
    rw [naturalFrom?] at h
    split at h
    · rw [addDigits, if_pos (Nat.lt_of_le_of_lt (le_of_naturalFrom? h) hm)]
      exact ih h
    · cases h

theorem spanDigits_decimal (n : Nat) : spanDigits (Text.decimal n) = (Text.decimal n, []) := by
  have hdigits : ∀ c ∈ Text.decimal n, isDigit c = true := fun c => isDigit_of_mem_decimal
  have htake : (Text.decimal n ++ []).takeWhile isDigit = Text.decimal n :=
    takeWhile_append_of_forall hdigits nofun
  have hdrop : (Text.decimal n ++ []).dropWhile isDigit = [] :=
    dropWhile_append_of_forall hdigits nofun
  rw [List.append_nil] at htake hdrop
  rw [spanDigits, htake, hdrop]

theorem unsigned?_decimal (negative : Bool) {n : Nat} (h : n < UInt64.size) :
    unsigned? negative (Text.decimal n) = some (integer negative n) := by
  have hzero : ¬ ((Text.decimal n).isEmpty = true ∨ (1 < (Text.decimal n).length ∧
      (Text.decimal n).head? = some '0')) := by
    rintro (hempty | ⟨hlong, hzero⟩)
    · exact decimal_ne_nil n (List.isEmpty_iff.mp hempty)
    · refine head?_decimal (Nat.pos_of_ne_zero fun hn => ?_) hzero
      rw [hn, Text.decimal] at hlong
      exact absurd hlong (by decide)
  unfold unsigned?
  rw [spanDigits_decimal]
  dsimp only
  rw [addDigits_of_naturalFrom? (naturalFrom?_decimal n) h]
  dsimp only
  rw [if_neg hzero]
  rfl

/-- An integer is read back. -/
theorem number?_integer {n : Int} (h : Holds64 n) : number? (Json.integer n) = some (.int n) := by
  obtain ⟨hlow, hhigh⟩ := h
  have hsize : n.natAbs < UInt64.size := by
    have hsize : UInt64.size = 2 ^ 64 := rfl
    omega
  unfold Json.integer
  split
  · rename_i hneg
    have hfits : 0 < n.natAbs ∧ Number.fitsInt64 (-(n.natAbs : Int)) = true := by
      refine ⟨by omega, ?_⟩
      simp only [Number.fitsInt64, Bool.and_eq_true, decide_eq_true_eq]
      omega
    have hback : -(n.natAbs : Int) = n := by omega
    show unsigned? true (Text.decimal n.natAbs) = _
    rw [unsigned?_decimal true hsize, integer, if_neg (by decide), if_pos hfits, hback]
  · rename_i hpos
    have hback : (n.natAbs : Int) = n := by omega
    have hdigits : number? (Text.decimal n.natAbs) = unsigned? false (Text.decimal n.natAbs) := by
      unfold number?
      split
      · rename_i rest hsign
        have hdigit : isDigit '-' = true := isDigit_of_mem_decimal (hsign ▸ List.mem_cons_self)
        exact absurd hdigit (by decide)
      · rfl
    rw [hdigits, unsigned?_decimal false hsize, integer, Bool.not_false, if_pos rfl, hback]

/-! ## Characters one after another -/

variable {state state' : State} {done : List Lexeme} {rest : List Char}

theorem scan?_cons {c : Char} {more : List Lexeme} (h : step? state c = some (state', more)) :
    scan? state done (c :: rest) = scan? state' (more.reverse ++ done) rest := by
  rw [scan?, h]

/-- No number and no name goes on here. -/
def EndsWord (s : List Char) : Prop :=
  ∀ c ∈ s.head?, isNumberChar c = false ∧ isNameChar c = false

/-- An open word that nothing goes on with is a lexeme. -/
theorem scan?_flush {v : Json} (hfinish : finish? state = some [.scalar v])
    (hstep : ∀ c ∈ rest.head?, step? state c =
      (start? c).map fun (state, more) => (state, .scalar v :: more)) :
    scan? state done rest = scan? .between (.scalar v :: done) rest := by
  cases rest with
  | nil =>
    rw [scan?, scan?, hfinish]
    simp [finish?]
  | cons c rest =>
    rw [scan?, scan?, hstep c rfl, step?]
    cases start? c with
    | none => rfl
    | some r =>
      obtain ⟨state, more⟩ := r
      simp

theorem scan?_inNumber {text s : List Char} {v : Json} (hs : ∀ c ∈ s, isNumberChar c = true)
    (hrest : EndsWord rest) (hnumber : number? (text.reverse ++ s) = some v) :
    scan? (.inNumber text) done (s ++ rest) = scan? .between (.scalar v :: done) rest := by
  induction s generalizing text with
  | nil =>
    rw [List.append_nil] at hnumber
    refine scan?_flush ?_ fun c hc => ?_
    · rw [finish?, hnumber]
      rfl
    · rw [step?, (hrest c hc).1, hnumber]
      cases start? c <;> rfl
  | cons c s ih =>
    have hstep : step? (.inNumber text) c = some (.inNumber (c :: text), []) :=
      if_pos (hs c List.mem_cons_self)
    rw [List.cons_append, scan?_cons hstep]
    refine ih (fun d hd => hs d (List.mem_cons_of_mem c hd)) ?_
    rw [List.reverse_cons, List.append_assoc]
    exact hnumber

theorem scan?_inName (text : List Char) {v : Json} (hrest : EndsWord rest)
    (hname : name? text.reverse = some v) :
    scan? (.inName text) done rest = scan? .between (.scalar v :: done) rest := by
  refine scan?_flush ?_ fun c hc => ?_
  · rw [finish?, hname]
    rfl
  · rw [step?, (hrest c hc).2, hname]
    cases start? c <;> rfl

/-! ## Strings -/

theorem hexValue?_hexDigit {n : Nat} (h : n < 16) : hexValue? (Json.hexDigit n) = some n := by
  have hall : ∀ k, k < 16 → hexValue? (Json.hexDigit k) = some k := by decide
  exact hall n h

theorem scan?_escape {text : List Char} {c e : Char} (hc : c ≠ 'u') (h : escape? c = some e) :
    scan? (.inString text) done ('\\' :: c :: rest) = scan? (.inString (e :: text)) done rest := by
  have hopen : step? (.inString text) '\\' = some (.afterBackslash text, []) := rfl
  have hstep : step? (.afterBackslash text) c = some (.inString (e :: text), []) := by
    rw [step?, if_neg hc, h]
    rfl
  rw [scan?_cons hopen, scan?_cons hstep]
  rfl

theorem scan?_unicode {text : List Char} {c : Char} (h : c.toNat < 32) :
    scan? (.inString text) done (['\\', 'u', '0', '0', Json.hexDigit (c.toNat / 16),
        Json.hexDigit (c.toNat % 16)] ++ rest) =
      scan? (.inString (c :: text)) done rest := by
  have hopen : step? (.inString text) '\\' = some (.afterBackslash text, []) := rfl
  have hu : step? (.afterBackslash text) 'u' = some (.inUnicode text none 0 4, []) := rfl
  have hzero : step? (.inUnicode text none 0 4) '0' = some (.inUnicode text none 0 3, []) := rfl
  have hzero' : step? (.inUnicode text none 0 3) '0' = some (.inUnicode text none 0 2, []) := rfl
  have hhigh : step? (.inUnicode text none 0 2) (Json.hexDigit (c.toNat / 16)) =
      some (.inUnicode text none (c.toNat / 16) 1, []) := by
    rw [step?, hexValue?_hexDigit (by omega)]
    simp
  have hlow : step? (.inUnicode text none (c.toNat / 16) 1) (Json.hexDigit (c.toNat % 16)) =
      some (.inString (c :: text), []) := by
    rw [step?, hexValue?_hexDigit (Nat.mod_lt _ (by decide))]
    dsimp only
    rw [if_pos (Nat.le_refl 1), Nat.div_add_mod, unicode?, if_neg (by omega), if_neg (by omega),
      Char.ofNat_toNat]
    rfl
  simp only [List.cons_append, List.nil_append]
  rw [scan?_cons hopen, scan?_cons hu, scan?_cons hzero, scan?_cons hzero', scan?_cons hhigh,
    scan?_cons hlow]
  rfl

/-- Each character of a string is read back, escaped or not. -/
theorem scan?_escapeChar (c : Char) (text : List Char) :
    scan? (.inString text) done (escapeChar c ++ rest) =
      scan? (.inString (c :: text)) done rest := by
  unfold escapeChar
  split_ifs with hquote hbackslash hline hreturn htab hback hfeed hcontrol
  · rw [hquote]
    exact scan?_escape (by decide) rfl
  · rw [hbackslash]
    exact scan?_escape (by decide) rfl
  · rw [hline]
    exact scan?_escape (by decide) rfl
  · rw [hreturn]
    exact scan?_escape (by decide) rfl
  · rw [htab]
    exact scan?_escape (by decide) rfl
  · have heq : c = Char.ofNat 8 := by
      rw [← hback, Char.ofNat_toNat]
    rw [heq]
    exact scan?_escape (by decide) rfl
  · have heq : c = Char.ofNat 12 := by
      rw [← hfeed, Char.ofNat_toNat]
    rw [heq]
    exact scan?_escape (by decide) rfl
  · exact scan?_unicode hcontrol
  · have hstep : step? (.inString text) c = some (.inString (c :: text), []) := by
      rw [step?, if_neg hquote, if_neg hbackslash, if_neg hcontrol]
    exact scan?_cons hstep

theorem scan?_escaped (s text : List Char) :
    scan? (.inString text) done (s.flatMap escapeChar ++ '"' :: rest) =
      scan? .between (.scalar (.str (String.ofList (text.reverse ++ s))) :: done) rest := by
  induction s generalizing text with
  | nil =>
    have hclose : step? (.inString text) '"' =
        some (.between, [.scalar (.str (String.ofList text.reverse))]) := rfl
    rw [List.append_nil]
    exact scan?_cons hclose
  | cons c s ih =>
    rw [List.flatMap_cons, List.append_assoc, scan?_escapeChar, ih, List.reverse_cons,
      List.append_assoc]
    rfl

/-- A string is read back. -/
theorem scan?_quote (s : String) :
    scan? .between done (quote s ++ rest) = scan? .between (.scalar (.str s) :: done) rest := by
  have hopen : step? .between '"' = some (.inString [], []) := rfl
  rw [quote, List.append_assoc, List.cons_append, scan?_cons hopen]
  refine (scan?_escaped s.toList []).trans ?_
  rw [List.reverse_nil, List.nil_append, String.ofList_toList]
  rfl

/-! ## Texts -/

/-- The values that are written in one word. -/
inductive IsWord : Json → Prop
  | null : IsWord .null
  | bool (b : Bool) : IsWord (.bool b)
  | int {n : Int} (h : Holds64 n) : IsWord (.int n)

theorem ne_of_isDigit {c d : Char} (hc : isDigit c = true) (hd : isDigit d = false) : c ≠ d := by
  rintro rfl
  rw [hc] at hd
  cases hd

/-- A digit begins a number. -/
theorem start?_of_isDigit {c : Char} (h : isDigit c = true) :
    start? c = some (.inNumber [c], []) := by
  have hspace : isSpace c = false := by
    simp only [isSpace, Bool.or_eq_false_iff, beq_eq_false_iff_ne]
    exact ⟨⟨⟨ne_of_isDigit h rfl, ne_of_isDigit h rfl⟩, ne_of_isDigit h rfl⟩, ne_of_isDigit h rfl⟩
  rw [start?, hspace, if_neg Bool.false_ne_true, if_neg (ne_of_isDigit h rfl),
    if_neg (ne_of_isDigit h rfl), if_neg (ne_of_isDigit h rfl), if_neg (ne_of_isDigit h rfl),
    if_neg (ne_of_isDigit h rfl), if_neg (ne_of_isDigit h rfl), if_neg (ne_of_isDigit h rfl),
    if_pos (Or.inr h)]

theorem isNumberChar_of_isDigit {c : Char} (h : isDigit c = true) : isNumberChar c = true := by
  simp [isNumberChar, h]

/-- An integer is one number from its first character on. -/
theorem scan?_integer (n : Int) (hrest : EndsWord rest) {v : Json}
    (hnumber : number? (Json.integer n) = some v) :
    scan? .between done (Json.integer n ++ rest) = scan? .between (.scalar v :: done) rest := by
  have hdigits : ∀ c ∈ Text.decimal n.natAbs, isNumberChar c = true := fun c hc =>
    isNumberChar_of_isDigit (isDigit_of_mem_decimal hc)
  unfold Json.integer at hnumber ⊢
  split at hnumber
  · have hsign : step? .between '-' = some (.inNumber ['-'], []) := rfl
    rw [if_pos (by assumption), List.cons_append, scan?_cons hsign]
    exact scan?_inNumber hdigits hrest hnumber
  · rw [if_neg (by assumption)]
    cases hfirst : Text.decimal n.natAbs with
    | nil => exact absurd hfirst (decimal_ne_nil _)
    | cons c more =>
      rw [hfirst] at hnumber hdigits
      have hdigit : isDigit c = true :=
        isDigit_of_mem_decimal (n := n.natAbs) (hfirst ▸ List.mem_cons_self)
      have hstep : step? .between c = some (.inNumber [c], []) := start?_of_isDigit hdigit
      rw [List.cons_append, scan?_cons hstep]
      exact scan?_inNumber (fun d hd => hdigits d (List.mem_cons_of_mem c hd)) hrest hnumber

/-- A word is read back. -/
theorem scan?_scalar {v : Json} (hv : IsWord v) (hrest : EndsWord rest) :
    scan? .between done (Json.scalar v ++ rest) = scan? .between (.scalar v :: done) rest := by
  cases hv with
  | null =>
    refine Eq.trans ?_ (scan?_inName "llun".toList hrest rfl)
    rfl
  | bool b =>
    cases b with
    | false =>
      refine Eq.trans ?_ (scan?_inName "eslaf".toList hrest rfl)
      rfl
    | true =>
      refine Eq.trans ?_ (scan?_inName "eurt".toList hrest rfl)
      rfl
  | @int n h =>
    exact scan?_integer n hrest (number?_integer h)

/-- The mark that punctuation is written with. -/
def mark? : Lexeme → Option Char
  | openObject => some '\x7b'
  | closeObject => some '\x7d'
  | openArray => some '['
  | closeArray => some ']'
  | comma => some ','
  | colon => some ':'
  | scalar _ => none

theorem start?_of_mark {l : Lexeme} {c : Char} (h : l.mark? = some c) :
    start? c = some (.between, [l]) := by
  cases l <;> cases h <;> rfl

/-- Texts of lexemes one after another, with white space before each of them or none. -/
inductive Laid : List Lexeme → List Char → Prop
  | nil : Laid [] []
  | space {lexemes : List Lexeme} {s : List Char} {c : Char} (hc : isSpace c = true)
      (h : Laid lexemes s) : Laid lexemes (c :: s)
  | mark {lexemes : List Lexeme} {s : List Char} {l : Lexeme} {c : Char} (hc : l.mark? = some c)
      (h : Laid lexemes s) : Laid (l :: lexemes) (c :: s)
  | quote {lexemes : List Lexeme} {s : List Char} (text : String) (h : Laid lexemes s) :
      Laid (.scalar (.str text) :: lexemes) (Json.quote text ++ s)
  | word {lexemes : List Lexeme} {s : List Char} {v : Json} (hv : IsWord v) (hs : EndsWord s)
      (h : Laid lexemes s) : Laid (.scalar v :: lexemes) (Json.scalar v ++ s)

/-- Lexemes are read back, whatever white space they are written with. -/
theorem ofText?_of_laid {lexemes : List Lexeme} {s : List Char} (h : Laid lexemes s) :
    ofText? s = some lexemes := by
  have hscan : ∀ done, scan? .between done s = some (done.reverse ++ lexemes) := by
    induction h with
    | nil => exact fun done => rfl
    | @space lexemes s c hc _ ih =>
      intro done
      have hstep : step? .between c = some (.between, []) := if_pos hc
      rw [scan?_cons hstep]
      exact ih done
    | @mark lexemes s l c hc _ ih =>
      intro done
      have hstep : step? .between c = some (.between, [l]) := start?_of_mark hc
      rw [scan?_cons hstep, ih]
      simp
    | quote text _ ih =>
      intro done
      rw [scan?_quote, ih]
      simp
    | word hv hs _ ih =>
      intro done
      rw [scan?_scalar hv hs, ih]
      simp
  exact hscan []

end Lexeme
end PaperSearch.Json
