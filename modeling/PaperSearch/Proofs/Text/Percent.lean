import PaperSearch.Text.Percent

/-!
# Percent escapes undone

`Percent.escape` writes a text with every byte outside the unreserved characters as an escape, and
`decode?_escape` reads it back, for every text. In the other direction nothing is promised of what
is written, but a text that is read never has more bytes than the text it was read from
(`length_utf8_of_decode?`), so an escape that is undone cannot go unnoticed. The texts that are read
as they are are those without an escape (`HasEscape`, `decode?_eq_self_iff`).
-/

namespace PaperSearch.Text

/-! ## UTF-8 -/

theorem toNat_ofNat_of_lt {n : Nat} (h : n < 256) : (Char.ofNat n).toNat = n := by
  have hvalid : n.isValidChar := Or.inl (by omega)
  rw [Char.ofNat, dif_pos hvalid]
  rfl

theorem utf8_eq (s : List Char) : utf8 s = s.flatMap String.utf8EncodeChar := by
  simp [utf8, List.utf8Encode]

theorem utf8_append (s t : List Char) : utf8 (s ++ t) = utf8 s ++ utf8 t := by
  simp [utf8_eq]

theorem length_utf8_cons_pos (c : Char) (s : List Char) : 0 < (utf8 (c :: s)).length := by
  simp only [utf8_eq, List.flatMap_cons, List.length_append, String.length_utf8EncodeChar]
  have := c.utf8Size_pos
  omega

/-- A character of ASCII is one byte. -/
theorem utf8_singleton_of_lt {c : Char} (h : c.toNat < 128) : utf8 [c] = [UInt8.ofNat c.toNat] := by
  have hsize : c.utf8Size = 1 := by
    rw [Char.utf8Size_eq_one_iff, UInt32.le_iff_toNat_le]
    exact Nat.le_of_lt_succ h
  simp [utf8_eq, String.utf8EncodeChar_eq_singleton hsize]
  rfl

/-- The bytes of a character outside ASCII are none of ASCII. -/
theorem le_of_mem_utf8_singleton {c : Char} (h : 128 ≤ c.toNat) {b : UInt8} (hb : b ∈ utf8 [c]) :
    128 ≤ b.toNat := by
  have hval : ¬ c.val.toNat ≤ 127 := Nat.not_le.mpr h
  simp only [utf8_eq, List.flatMap_cons, List.flatMap_nil, List.append_nil, String.utf8EncodeChar,
    if_neg hval] at hb
  repeat' split at hb
  all_goals
    simp only [List.mem_cons, List.not_mem_nil, or_false] at hb
    rcases hb with rfl | rfl | rfl | rfl <;> simp only [UInt8.toNat_ofNat'] <;> omega

theorem utf8_cons (c : Char) (s : List Char) : utf8 (c :: s) = utf8 [c] ++ utf8 s := by
  rw [← utf8_append, List.singleton_append]

theorem ofUtf8?_utf8 (s : List Char) : ofUtf8? (utf8 s) = some s := by
  have hv : ByteArray.IsValidUTF8 s.utf8Encode := ByteArray.isValidUTF8_utf8Encode
  have hs : String.fromUTF8 s.utf8Encode hv = String.ofList s := by
    apply String.toByteArray_inj.mp
    simp [String.fromUTF8]
  simp only [ofUtf8?, utf8, String.fromUTF8?, String.toByteArray_ofList, Array.toArray_toList]
  rw [dif_pos hv]
  simp only [hs, Option.map_some, String.toList_ofList]

theorem utf8_of_ofUtf8? {bytes : List UInt8} {s : List Char} (h : ofUtf8? bytes = some s) :
    utf8 s = bytes := by
  simp only [ofUtf8?, String.fromUTF8?, Option.map_eq_some_iff, Option.dite_none_right_eq_some,
    Option.some.injEq] at h
  obtain ⟨t, ⟨hv, rfl⟩, rfl⟩ := h
  simp [utf8, String.fromUTF8]

namespace Percent

/-! ## Bytes -/

/-- A byte that is no `%` stands for itself. -/
theorem unescape_cons_of_ne {b : UInt8} (h : b ≠ 37) (rest : List UInt8) :
    unescape (b :: rest) = b :: unescape rest := by
  cases rest with
  | nil => rfl
  | cons c rest =>
    cases rest with
    | nil => rfl
    | cons d rest => rw [unescape, if_neg h]

theorem length_unescape_le (bytes : List UInt8) : (unescape bytes).length ≤ bytes.length := by
  fun_induction unescape bytes with
  | case1 | case2 | case3 => exact Nat.le_refl _
  | case4 high low rest byte _ ih =>
    -- an escape of three bytes stands for one
    rw [List.length_cons, List.length_cons, List.length_cons, List.length_cons]
    omega
  | case5 | case6 => exact Nat.succ_le_succ (by assumption)

/-- A text that is read from escapes has no more bytes than they. -/
theorem length_utf8_of_decode? {s t : List Char} (h : decode? s = some t) :
    (utf8 t).length ≤ (utf8 s).length := by
  rw [utf8_of_ofUtf8? h]
  exact length_unescape_le _

/-- No part of a text but all of it is read as the text. -/
theorem eq_nil_of_decode? {before after : List Char} (h : decode? before = some (before ++ after)) :
    after = [] := by
  cases after with
  | nil => rfl
  | cons c after =>
    have hle := length_utf8_of_decode? h
    have hpos := length_utf8_cons_pos c after
    rw [utf8_append, List.length_append] at hle
    omega

/-! ## Texts without escapes -/

/-- Somewhere in the text a `%` and two hexadecimal digits follow each other. -/
def HasEscape (s : List Char) : Prop :=
  ∃ high low, ['%', high, low] <:+: s ∧ (hexValue? high).isSome ∧ (hexValue? low).isSome

theorem HasEscape.of_infix {s t : List Char} (h : HasEscape s) (hst : s <:+: t) : HasEscape t := by
  obtain ⟨high, low, hpart, hdigits⟩ := h
  exact ⟨high, low, hpart.trans hst, hdigits⟩

theorem not_hasEscape_of_not_mem {s : List Char} (h : '%' ∉ s) : ¬ HasEscape s := by
  rintro ⟨high, low, hpart, -⟩
  exact h (hpart.subset List.mem_cons_self)

theorem ofNat_toNat_of_lt {c : Char} (h : c.toNat < 128) :
    Char.ofNat (UInt8.ofNat c.toNat).toNat = c := by
  have hmod : (UInt8.ofNat c.toNat).toNat = c.toNat := by
    simp only [UInt8.toNat_ofNat']
    omega
  rw [hmod, Char.ofNat_toNat]

theorem toNat_lt_of_hexValue? {c : Char} (h : (hexValue? c).isSome) : c.toNat < 128 := by
  have hle : ∀ d : Char, c ≤ d → c.toNat ≤ d.toNat := fun d hd => hd
  unfold hexValue? at h
  split at h
  · rename_i hdigit
    simp only [isDigit, Bool.and_eq_true, decide_eq_true_eq] at hdigit
    omega
  · split at h
    · rename_i hlower
      exact Nat.lt_of_le_of_lt (hle 'f' hlower.2) (by decide)
    · split at h
      · rename_i hupper
        exact Nat.lt_of_le_of_lt (hle 'F' hupper.2) (by decide)
      · cases h

theorem hasEscape_cons {c : Char} {s : List Char} (hc : c ≠ '%') :
    HasEscape (c :: s) ↔ HasEscape s := by
  constructor
  · rintro ⟨high, low, hpart, hdigits⟩
    rcases List.infix_cons_iff.mp hpart with hprefix | hpart
    · exact absurd (List.cons_prefix_cons.mp hprefix).1.symm hc
    · exact ⟨high, low, hpart, hdigits⟩
  · intro h
    exact h.of_infix (List.suffix_cons c s).isInfix

/-- An escape lies on one side of a character that cannot be part of it. -/
theorem HasEscape.of_append {s t : List Char} {c : Char} (hc : c ≠ '%') (hhex : hexValue? c = none)
    (h : HasEscape (s ++ c :: t)) : HasEscape s ∨ HasEscape t := by
  induction s with
  | nil => exact Or.inr ((hasEscape_cons hc).mp h)
  | cons d s ih =>
    obtain ⟨high, low, hpart, hhigh, hlow⟩ := h
    rcases List.infix_cons_iff.mp hpart with hprefix | hpart
    · obtain ⟨rest, hrest⟩ := hprefix
      obtain rfl : '%' = d := (List.cons.inj hrest).1
      have hrest : high :: low :: rest = s ++ c :: t := (List.cons.inj hrest).2
      match s, hrest with
      | [], hrest =>
        rw [(List.cons.inj hrest).1, hhex] at hhigh
        cases hhigh
      | [_], hrest =>
        rw [(List.cons.inj (List.cons.inj hrest).2).1, hhex] at hlow
        cases hlow
      | a :: b :: s, hrest =>
        have ha : high = a := (List.cons.inj hrest).1
        have hb : low = b := (List.cons.inj (List.cons.inj hrest).2).1
        rw [← ha, ← hb]
        exact Or.inl ⟨high, low, (List.prefix_append ['%', high, low] s).isInfix, hhigh, hlow⟩
    · rcases ih ⟨high, low, hpart, hhigh, hlow⟩ with hs | ht
      · exact Or.inl (hs.of_infix (List.suffix_cons d s).isInfix)
      · exact Or.inr ht

/-- A byte of a text that is a hexadecimal digit comes from a character that is one. -/
theorem exists_of_utf8_eq_cons {s : List Char} {b : UInt8} {bytes : List UInt8}
    (h : utf8 s = b :: bytes) (hb : (hexValue? (Char.ofNat b.toNat)).isSome) :
    ∃ c rest, s = c :: rest ∧ (hexValue? c).isSome ∧ utf8 rest = bytes := by
  cases s with
  | nil => simp [utf8_eq] at h
  | cons c rest =>
    rw [utf8_cons] at h
    by_cases hlt : c.toNat < 128
    · rw [utf8_singleton_of_lt hlt] at h
      obtain ⟨rfl, hbytes⟩ := List.cons.inj h
      rw [ofNat_toNat_of_lt hlt] at hb
      exact ⟨c, rest, rfl, hb, hbytes⟩
    · have hmem : b ∈ utf8 [c] := by
        cases hc : utf8 [c] with
        | nil => simp [utf8_eq] at hc
        | cons d ds =>
          rw [hc] at h
          rw [(List.cons.inj h).1]
          exact List.mem_cons_self
      have hle := le_of_mem_utf8_singleton (Nat.not_lt.mp hlt) hmem
      have hdigit := toNat_lt_of_hexValue? hb
      rw [toNat_ofNat_of_lt b.toNat_lt] at hdigit
      omega

theorem isSome_of_hexByte? {high low byte : UInt8} (h : hexByte? high low = some byte) :
    (hexValue? (Char.ofNat high.toNat)).isSome ∧ (hexValue? (Char.ofNat low.toNat)).isSome := by
  unfold hexByte? at h
  cases hhigh : hexValue? (Char.ofNat high.toNat) with
  | none =>
    rw [hhigh] at h
    cases h
  | some n =>
    cases hlow : hexValue? (Char.ofNat low.toNat) with
    | none =>
      rw [hhigh, hlow] at h
      cases h
    | some m => exact ⟨rfl, rfl⟩

theorem unescape_append_of_forall_ne {bytes : List UInt8} (h : ∀ b ∈ bytes, b ≠ 37)
    (rest : List UInt8) : unescape (bytes ++ rest) = bytes ++ unescape rest := by
  induction bytes with
  | nil => rfl
  | cons b bytes ih =>
    rw [List.cons_append, unescape_cons_of_ne (h b List.mem_cons_self),
      ih (fun c hc => h c (List.mem_cons_of_mem b hc)), List.cons_append]

/-- A `%` that begins no escape stands for itself. -/
theorem unescape_percent {s : List Char} (h : ¬ HasEscape ('%' :: s)) :
    unescape (37 :: utf8 s) = 37 :: unescape (utf8 s) := by
  cases hs : utf8 s with
  | nil => rfl
  | cons high bytes =>
    cases bytes with
    | nil => rfl
    | cons low bytes =>
      rw [unescape, if_pos rfl]
      cases hbyte : hexByte? high low with
      | none => rfl
      | some byte =>
        obtain ⟨hhigh, hlow⟩ := isSome_of_hexByte? hbyte
        obtain ⟨c, rest, rfl, hc, hrest⟩ := exists_of_utf8_eq_cons hs hhigh
        obtain ⟨d, rest, rfl, hd, -⟩ := exists_of_utf8_eq_cons hrest hlow
        exact absurd ⟨c, d, (List.prefix_append ['%', c, d] rest).isInfix, hc, hd⟩ h

theorem unescape_of_not_hasEscape {s : List Char} (h : ¬ HasEscape s) :
    unescape (utf8 s) = utf8 s := by
  induction s with
  | nil => simp [utf8_eq, unescape]
  | cons c rest ih =>
    have hrest := ih fun h' => h (h'.of_infix (List.suffix_cons c rest).isInfix)
    by_cases hc : c = '%'
    · subst hc
      have hbyte : utf8 ['%'] = [37] := utf8_singleton_of_lt (by decide)
      rw [utf8_cons, hbyte, List.singleton_append, unescape_percent h, hrest]
    · have hne : ∀ b ∈ utf8 [c], b ≠ 37 := by
        rintro b hb rfl
        by_cases hlt : c.toNat < 128
        · rw [utf8_singleton_of_lt hlt, List.mem_singleton] at hb
          have hpercent := ofNat_toNat_of_lt hlt
          rw [← hb] at hpercent
          exact hc hpercent.symm
        · exact absurd (le_of_mem_utf8_singleton (Nat.not_lt.mp hlt) hb) (by decide)
      rw [utf8_cons, unescape_append_of_forall_ne hne, hrest]

/-- A text without an escape is read as it is. -/
theorem decode?_of_not_hasEscape {s : List Char} (h : ¬ HasEscape s) : decode? s = some s := by
  rw [decode?, unescape_of_not_hasEscape h, ofUtf8?_utf8]

/-- Bytes with an escape among them become fewer. -/
theorem length_unescape_lt {bytes : List UInt8} {high low byte : UInt8}
    (hpart : [37, high, low] <:+: bytes) (hbyte : hexByte? high low = some byte) :
    (unescape bytes).length < bytes.length := by
  fun_induction unescape bytes with
  | case1 | case2 | case3 =>
    have hlen := hpart.length_le
    simp at hlen
  | case4 high' low' rest byte' _ ih =>
    have hle := length_unescape_le rest
    simp only [List.length_cons]
    omega
  | case5 high' low' rest hnone ih =>
    rcases List.infix_cons_iff.mp hpart with hprefix | hpart
    · -- the first byte begins no escape
      simp only [List.cons_prefix_cons] at hprefix
      obtain ⟨-, rfl, rfl, -⟩ := hprefix
      rw [hnone] at hbyte
      cases hbyte
    · exact Nat.succ_lt_succ (ih hpart)
  | case6 b high' low' rest hne ih =>
    rcases List.infix_cons_iff.mp hpart with hprefix | hpart
    · exact absurd (List.cons_prefix_cons.mp hprefix).1.symm hne
    · exact Nat.succ_lt_succ (ih hpart)

theorem exists_hexByte? {high low : Char} (hhigh : (hexValue? high).isSome)
    (hlow : (hexValue? low).isSome) :
    ∃ byte, hexByte? (UInt8.ofNat high.toNat) (UInt8.ofNat low.toNat) = some byte := by
  obtain ⟨n, hn⟩ := Option.isSome_iff_exists.mp hhigh
  obtain ⟨m, hm⟩ := Option.isSome_iff_exists.mp hlow
  refine ⟨UInt8.ofNat (16 * n + m), ?_⟩
  rw [hexByte?, ofNat_toNat_of_lt (toNat_lt_of_hexValue? hhigh),
    ofNat_toNat_of_lt (toNat_lt_of_hexValue? hlow), hn, hm]
  rfl

/-- An escape in a text is one among its bytes. -/
theorem exists_infix_utf8 {s : List Char} (h : HasEscape s) :
    ∃ high low byte, [37, high, low] <:+: utf8 s ∧ hexByte? high low = some byte := by
  obtain ⟨high, low, ⟨before, after, rfl⟩, hhigh, hlow⟩ := h
  obtain ⟨byte, hbyte⟩ := exists_hexByte? hhigh hlow
  refine ⟨_, _, byte, ⟨utf8 before, utf8 after, ?_⟩, hbyte⟩
  rw [utf8_append, utf8_append, utf8_cons '%', utf8_cons high,
    utf8_singleton_of_lt (by decide), utf8_singleton_of_lt (toNat_lt_of_hexValue? hhigh),
    utf8_singleton_of_lt (toNat_lt_of_hexValue? hlow)]
  rfl

/-- A text is read as it is exactly when it has no escape. -/
theorem decode?_eq_self_iff {s : List Char} : decode? s = some s ↔ ¬ HasEscape s := by
  refine ⟨fun h hescape => ?_, decode?_of_not_hasEscape⟩
  obtain ⟨high, low, byte, hpart, hbyte⟩ := exists_infix_utf8 hescape
  have hlt := length_unescape_lt hpart hbyte
  rw [← utf8_of_ofUtf8? h] at hlt
  exact Nat.lt_irrefl _ hlt

/-! ## Escaping -/

/-- Bytes that stand for themselves in an address: ASCII letters and digits and `-`, `.`, `_`,
`~`. -/
def isUnreserved (b : UInt8) : Bool :=
  let n := b.toNat
  (48 ≤ n && n ≤ 57) || (65 ≤ n && n ≤ 90) || (97 ≤ n && n ≤ 122) ||
    n == 45 || n == 46 || n == 95 || n == 126

def escapedByte (b : UInt8) : List Char :=
  if isUnreserved b then [Char.ofNat b.toNat] else escapeByte b

/-- A text with every byte that is not unreserved written as an escape. -/
def escape (s : List Char) : List Char :=
  (utf8 s).flatMap escapedByte

theorem hexValue?_hexDigit {n : Nat} (h : n < 16) : hexValue? (hexDigit n) = some n := by
  have hall : ∀ k, k < 16 → hexValue? (hexDigit k) = some k := by decide
  exact hall n h

theorem toNat_hexDigit_lt {n : Nat} (h : n < 16) : (hexDigit n).toNat < 128 := by
  have hall : ∀ k, k < 16 → (hexDigit k).toNat < 128 := by decide
  exact hall n h

/-- An escape that is written is undone. -/
theorem unescape_escapeByte (b : UInt8) (rest : List UInt8) :
    unescape (utf8 (escapeByte b) ++ rest) = b :: unescape rest := by
  have hb : b.toNat < 256 := b.toNat_lt
  have hhigh := toNat_hexDigit_lt (n := b.toNat / 16) (by omega)
  have hlow := toNat_hexDigit_lt (n := b.toNat % 16) (by omega)
  have hbyte : hexByte? (UInt8.ofNat (hexDigit (b.toNat / 16)).toNat)
      (UInt8.ofNat (hexDigit (b.toNat % 16)).toNat) = some b := by
    simp only [hexByte?, ofNat_toNat_of_lt hhigh, ofNat_toNat_of_lt hlow,
      hexValue?_hexDigit (show b.toNat / 16 < 16 by omega),
      hexValue?_hexDigit (show b.toNat % 16 < 16 by omega)]
    show some (UInt8.ofNat (16 * (b.toNat / 16) + b.toNat % 16)) = some b
    rw [Nat.div_add_mod, UInt8.ofNat_toNat]
  have hutf8 : utf8 (escapeByte b) = [37, UInt8.ofNat (hexDigit (b.toNat / 16)).toNat,
      UInt8.ofNat (hexDigit (b.toNat % 16)).toNat] := by
    rw [escapeByte, ← List.singleton_append, utf8_append,
      ← List.singleton_append (l := [hexDigit (b.toNat % 16)]), utf8_append,
      utf8_singleton_of_lt (by decide), utf8_singleton_of_lt hhigh, utf8_singleton_of_lt hlow]
    rfl
  rw [hutf8]
  simp only [List.cons_append, List.nil_append]
  rw [unescape, if_pos rfl, hbyte]

/-- A byte of ASCII that is written as its character is read back, unless it is `%`. -/
theorem unescape_plainByte {b : UInt8} (hlt : b.toNat < 128) (hne : b ≠ 37) (rest : List UInt8) :
    unescape (utf8 [Char.ofNat b.toNat] ++ rest) = b :: unescape rest := by
  have hchar : (Char.ofNat b.toNat).toNat = b.toNat := toNat_ofNat_of_lt b.toNat_lt
  rw [utf8_singleton_of_lt (by omega), hchar, UInt8.ofNat_toNat, List.singleton_append,
    unescape_cons_of_ne hne]

section Bytewise

variable {write : UInt8 → List Char}
  (hwrite : ∀ b rest, unescape (utf8 (write b) ++ rest) = b :: unescape rest)

include hwrite

theorem unescape_flatMap (bytes rest : List UInt8) :
    unescape (utf8 (bytes.flatMap write) ++ rest) = bytes ++ unescape rest := by
  induction bytes with
  | nil => rfl
  | cons b bytes ih =>
    rw [List.flatMap_cons, utf8_append, List.append_assoc, hwrite, ih, List.cons_append]

/-- A text is read back when each of its bytes is written so that it is read back. -/
theorem decode?_flatMap (s : List Char) : decode? ((utf8 s).flatMap write) = some s := by
  have h := unescape_flatMap hwrite (utf8 s) []
  rw [List.append_nil] at h
  rw [decode?, h]
  exact (congrArg ofUtf8? (List.append_nil _)).trans (ofUtf8?_utf8 s)

end Bytewise

theorem unreserved_bounds {b : UInt8} (h : isUnreserved b = true) : b.toNat < 128 ∧ b ≠ 37 := by
  simp only [isUnreserved, Bool.or_eq_true, Bool.and_eq_true, decide_eq_true_eq, beq_iff_eq] at h
  refine ⟨by omega, ?_⟩
  rintro rfl
  exact absurd h (by decide)

theorem unescape_escapedByte (b : UInt8) (rest : List UInt8) :
    unescape (utf8 (escapedByte b) ++ rest) = b :: unescape rest := by
  unfold escapedByte
  split
  · rename_i hsafe
    obtain ⟨hlt, hne⟩ := unreserved_bounds hsafe
    exact unescape_plainByte hlt hne rest
  · exact unescape_escapeByte b rest

/-- Every text is read back from its escaped form. -/
theorem decode?_escape (s : List Char) : decode? (escape s) = some s :=
  decode?_flatMap unescape_escapedByte s

/-! ## Forms -/

/-- A character that stands for itself in a form. -/
def isFormSafeChar (c : Char) : Bool :=
  c.toNat < 128 && isFormSafe (UInt8.ofNat c.toNat)

theorem isFormSafeChar_of_isDigit {c : Char} (h : isDigit c = true) : isFormSafeChar c = true := by
  simp only [isDigit, Bool.and_eq_true, decide_eq_true_eq] at h
  have hbyte : (UInt8.ofNat c.toNat).toNat = c.toNat := by
    rw [UInt8.toNat_ofNat']
    omega
  simp only [isFormSafeChar, isFormSafe, hbyte, Bool.or_eq_true, Bool.and_eq_true,
    decide_eq_true_eq]
  omega

/-- A text of such characters is written as it is. -/
theorem formEncode_of_all_isFormSafeChar {s : List Char} (h : s.all isFormSafeChar = true) :
    formEncode s = s := by
  induction s with
  | nil => rfl
  | cons c s ih =>
    rw [List.all_cons, Bool.and_eq_true] at h
    obtain ⟨hlt, hsafe⟩ := Bool.and_eq_true_iff.mp h.1
    have hlt' : c.toNat < 128 := of_decide_eq_true hlt
    have hbyte : formByte (UInt8.ofNat c.toNat) = [c] := by
      unfold formByte
      rw [if_pos hsafe, ofNat_toNat_of_lt hlt']
    have hrest := ih h.2
    unfold formEncode at hrest ⊢
    rw [utf8_cons, utf8_singleton_of_lt hlt', List.flatMap_append, List.flatMap_singleton, hbyte,
      hrest, List.singleton_append]

end Percent
end PaperSearch.Text
