import PaperSearch.Proofs.Text.Percent

/-!
# Positions of bytes

A text can be searched and cut by the positions of its bytes in UTF-8. A cut has to be made between
two characters (`isBoundary`), and nothing in the bytes alone says that a position is such a place.
It is one when it was found by looking for ASCII, because a byte of ASCII is always a character:

* `firstAt?`, `lastAt?`: the position of the first place of a mark, and of the last place of an item.
* `firstAt?_utf8`, `lastAt?_utf8`: marks of ASCII are found in the bytes where they stand in the text.
* `bytesFrom?_append`, `bytesTo?_append`: the bytes of a text in two parts can be cut between them.
-/

namespace PaperSearch.Text

/-! ## Positions in a list -/

section Positions

variable {α : Type} {mark before s : List α} {a : α}

/-- This is the first place of a mark: it does not stand before it, nor does it begin before it and
end with its own beginning. -/
def IsFirst (mark before : List α) : Prop :=
  ¬ mark <:+: before ++ mark.dropLast

theorem IsFirst.tail (h : IsFirst mark (a :: before)) : IsFirst mark before :=
  fun hinfix => h (List.infix_cons hinfix)

/-- All of a mark but its end stands before what follows it. -/
theorem dropLast_prefix_append (mark before rest : List α) :
    before ++ mark.dropLast <+: before ++ (mark ++ rest) :=
  (List.prefix_append_right_inj before).mpr
    ((List.dropLast_prefix mark).trans (List.prefix_append mark rest))

/-- The mark does not begin before its first place. -/
theorem IsFirst.not_prefix (h : IsFirst mark (a :: before)) (rest : List α) :
    ¬ mark <+: a :: before ++ (mark ++ rest) := by
  intro hprefix
  have hlength : mark.length ≤ (a :: before ++ mark.dropLast).length := by
    rw [List.length_append, List.length_cons, List.length_dropLast]
    omega
  have hshort := dropLast_prefix_append mark (a :: before) rest
  exact h (List.prefix_of_prefix_length_le hprefix hshort hlength).isInfix

/-- A mark that stands in a list has a first place in it. -/
theorem exists_isFirst (hne : mark ≠ []) (h : mark <:+: s) :
    ∃ before rest, s = before ++ (mark ++ rest) ∧ IsFirst mark before := by
  induction s with
  | nil => exact absurd (List.infix_nil.mp h) hne
  | cons a s ih =>
    by_cases hprefix : mark <+: a :: s
    · obtain ⟨rest, hrest⟩ := hprefix
      refine ⟨[], rest, hrest.symm, fun hinfix => ?_⟩
      have hlength := hinfix.length_le
      have hpos := List.length_pos_iff.mpr hne
      rw [List.nil_append, List.length_dropLast] at hlength
      omega
    · have hrest : mark <:+: s := (List.infix_cons_iff.mp h).resolve_left hprefix
      obtain ⟨before, rest, rfl, hfirst⟩ := ih hrest
      refine ⟨a :: before, rest, rfl, fun hinfix => ?_⟩
      rcases List.infix_cons_iff.mp hinfix with hp | hp
      · have hshort := dropLast_prefix_append mark before rest
        exact hprefix (hp.trans (List.cons_prefix_cons.mpr ⟨rfl, hshort⟩))
      · exact hfirst hp

/-- An item of a list has a last place in it. -/
theorem exists_last (h : a ∈ s) : ∃ before after, s = before ++ a :: after ∧ a ∉ after := by
  obtain ⟨after, before, hreverse, hafter⟩ := List.eq_append_cons_of_mem (List.mem_reverse.mpr h)
  refine ⟨before.reverse, after.reverse, ?_, mt List.mem_reverse.mp hafter⟩
  rw [← List.reverse_reverse s, hreverse]
  simp

variable [DecidableEq α]

/-- The position of the first place of a mark. -/
def firstAt? (mark : List α) : List α → Option Nat
  | [] => if mark.isEmpty then some 0 else none
  | a :: rest =>
    if mark.isPrefixOf (a :: rest) then some 0 else (firstAt? mark rest).map (· + 1)

/-- The position of the last place of an item. -/
def lastAt? (a : α) : List α → Option Nat
  | [] => none
  | b :: rest =>
    match lastAt? a rest with
    | some i => some (i + 1)
    | none => if b = a then some 0 else none

theorem firstAt?_append (hne : mark ≠ []) (h : IsFirst mark before) (rest : List α) :
    firstAt? mark (before ++ (mark ++ rest)) = some before.length := by
  induction before with
  | nil =>
    cases mark with
    | nil => exact absurd rfl hne
    | cons m mark =>
      have hprefix : (m :: mark).isPrefixOf (m :: (mark ++ rest)) = true :=
        List.isPrefixOf_iff_prefix.mpr (List.prefix_append (m :: mark) rest)
      exact if_pos hprefix
  | cons a before ih =>
    have hprefix : ¬ mark.isPrefixOf (a :: (before ++ (mark ++ rest))) = true :=
      fun hp => h.not_prefix rest (List.isPrefixOf_iff_prefix.mp hp)
    rw [List.cons_append, firstAt?, if_neg hprefix, ih h.tail]
    rfl

theorem firstAt?_eq_none (h : ¬ mark <:+: s) : firstAt? mark s = none := by
  induction s with
  | nil =>
    have hne : mark ≠ [] := by
      rintro rfl
      exact h List.nil_infix
    exact if_neg fun hempty => hne (List.isEmpty_iff.mp hempty)
  | cons a s ih =>
    have hprefix : ¬ mark.isPrefixOf (a :: s) = true :=
      fun hp => h (List.isPrefixOf_iff_prefix.mp hp).isInfix
    rw [firstAt?, if_neg hprefix, ih fun hinfix => h (List.infix_cons hinfix)]
    rfl

theorem lastAt?_eq_none (h : a ∉ s) : lastAt? a s = none := by
  induction s with
  | nil => rfl
  | cons b s ih =>
    obtain ⟨hne, hrest⟩ := not_or.mp (mt List.mem_cons.mpr h)
    rw [lastAt?, ih hrest]
    exact if_neg (Ne.symm hne)

theorem lastAt?_append {after : List α} (h : a ∉ after) (before : List α) :
    lastAt? a (before ++ a :: after) = some before.length := by
  induction before with
  | nil =>
    rw [List.nil_append, lastAt?, lastAt?_eq_none h]
    exact if_pos rfl
  | cons b before ih =>
    rw [List.cons_append, lastAt?, ih]
    rfl

end Positions

/-! ## Bytes of ASCII -/

/-- The byte of a character of ASCII. -/
def asciiByte (c : Char) : UInt8 :=
  UInt8.ofNat c.toNat

def IsAscii (s : List Char) : Prop :=
  ∀ c ∈ s, c.toNat < 128

theorem toNat_asciiByte {c : Char} (h : c.toNat < 128) : (asciiByte c).toNat = c.toNat := by
  rw [asciiByte, UInt8.toNat_ofNat']
  omega

theorem asciiByte_inj {c d : Char} (hc : c.toNat < 128) (hd : d.toNat < 128) :
    asciiByte c = asciiByte d ↔ c = d := by
  refine ⟨fun h => ?_, congrArg asciiByte⟩
  have hnat : c.toNat = d.toNat := by rw [← toNat_asciiByte hc, ← toNat_asciiByte hd, h]
  rw [← Char.ofNat_toNat c, ← Char.ofNat_toNat d, hnat]

theorem utf8_ascii {c : Char} (h : c.toNat < 128) : utf8 [c] = [asciiByte c] :=
  utf8_singleton_of_lt h

theorem utf8_cons_ascii {c : Char} (h : c.toNat < 128) (s : List Char) :
    utf8 (c :: s) = asciiByte c :: utf8 s := by
  rw [utf8_cons, utf8_ascii h, List.singleton_append]

theorem length_utf8_of_isAscii {s : List Char} (h : IsAscii s) : (utf8 s).length = s.length := by
  induction s with
  | nil => rfl
  | cons c s ih =>
    obtain ⟨hc, hs⟩ := List.forall_mem_cons.mp h
    rw [utf8_cons_ascii hc, List.length_cons, ih hs, List.length_cons]

/-- A byte of ASCII is a character of its own. -/
theorem ne_of_mem_utf8 {c d : Char} (hc : c.toNat < 128) (hd : 128 ≤ d.toNat) {b : UInt8}
    (hb : b ∈ utf8 [d]) : asciiByte c ≠ b := by
  rintro rfl
  have hle := le_of_mem_utf8_singleton hd hb
  rw [toNat_asciiByte hc] at hle
  omega

theorem asciiByte_mem_utf8_iff {c : Char} (hc : c.toNat < 128) {s : List Char} :
    asciiByte c ∈ utf8 s ↔ c ∈ s := by
  induction s with
  | nil => simp [utf8_eq]
  | cons d s ih =>
    by_cases hd : d.toNat < 128
    · rw [utf8_cons_ascii hd, List.mem_cons, List.mem_cons, ih, asciiByte_inj hc hd]
    · have hd : 128 ≤ d.toNat := Nat.not_lt.mp hd
      have hne : c ≠ d := by
        rintro rfl
        omega
      rw [utf8_cons, List.mem_append, List.mem_cons, ih, or_iff_right hne,
        or_iff_right fun hmem => ne_of_mem_utf8 hc hd hmem rfl]

theorem prefix_utf8_iff {mark s : List Char} (hmark : IsAscii mark) :
    utf8 mark <+: utf8 s ↔ mark <+: s := by
  induction mark generalizing s with
  | nil => simp [utf8_eq]
  | cons m mark ih =>
    obtain ⟨hm, hmark⟩ := List.forall_mem_cons.mp hmark
    rw [utf8_cons_ascii hm]
    cases s with
    | nil => simp [utf8_eq]
    | cons d s =>
      by_cases hd : d.toNat < 128
      · rw [utf8_cons_ascii hd, List.cons_prefix_cons, List.cons_prefix_cons, ih hmark,
          asciiByte_inj hm hd]
      · have hd : 128 ≤ d.toNat := Nat.not_lt.mp hd
        constructor
        · intro h
          cases hbytes : utf8 [d] with
          | nil => simp [utf8_eq] at hbytes
          | cons b bytes =>
            rw [utf8_cons, hbytes, List.cons_append, List.cons_prefix_cons] at h
            exact absurd h.1 (ne_of_mem_utf8 hm hd (hbytes ▸ List.mem_cons_self))
        · intro h
          obtain ⟨rfl, -⟩ := List.cons_prefix_cons.mp h
          omega

/-- A mark does not begin among items that it does not begin with. -/
theorem infix_of_infix_append {α : Type} {m : α} {mark front s : List α} (hfront : m ∉ front)
    (h : m :: mark <:+: front ++ s) : m :: mark <:+: s := by
  induction front with
  | nil => exact h
  | cons a front ih =>
    obtain ⟨hne, hfront⟩ := not_or.mp (mt List.mem_cons.mpr hfront)
    rcases List.infix_cons_iff.mp h with hprefix | hinfix
    · exact absurd (List.cons_prefix_cons.mp hprefix).1 hne
    · exact ih hfront hinfix

/-- A mark of ASCII stands in the bytes of a text exactly when it stands in the text. -/
theorem infix_utf8_iff {mark s : List Char} (hmark : IsAscii mark) :
    utf8 mark <:+: utf8 s ↔ mark <:+: s := by
  refine ⟨fun h => ?_, ?_⟩
  · induction s with
    | nil =>
      have hprefix : utf8 mark <+: utf8 [] := by
        rw [show utf8 [] = [] from rfl, List.infix_nil] at h
        rw [h]
        exact List.nil_prefix
      exact ((prefix_utf8_iff hmark).mp hprefix).isInfix
    | cons d s ih =>
      by_cases hd : d.toNat < 128
      · rw [utf8_cons_ascii hd] at h
        rcases List.infix_cons_iff.mp h with hprefix | hinfix
        · rw [← utf8_cons_ascii hd] at hprefix
          exact ((prefix_utf8_iff hmark).mp hprefix).isInfix
        · exact List.infix_cons (ih hinfix)
      · cases mark with
        | nil => exact List.nil_infix
        | cons m mark =>
          have hm : m.toNat < 128 := hmark m List.mem_cons_self
          rw [utf8_cons d, utf8_cons_ascii hm] at h
          have hrest := infix_of_infix_append
            (fun hmem => ne_of_mem_utf8 hm (Nat.not_lt.mp hd) hmem rfl) h
          rw [← utf8_cons_ascii hm] at hrest
          exact List.infix_cons (ih hrest)
  · rintro ⟨before, after, rfl⟩
    rw [utf8_append, utf8_append]
    exact List.infix_append _ _ _

theorem utf8_dropLast {mark : List Char} (hmark : IsAscii mark) :
    utf8 mark.dropLast = (utf8 mark).dropLast := by
  induction mark with
  | nil => rfl
  | cons m mark ih =>
    obtain ⟨hm, hmark⟩ := List.forall_mem_cons.mp hmark
    cases mark with
    | nil =>
      rw [utf8_ascii hm]
      rfl
    | cons n mark =>
      have hn : n.toNat < 128 := hmark n List.mem_cons_self
      rw [List.dropLast_cons_cons, utf8_cons_ascii hm, ih hmark, utf8_cons_ascii hm,
        utf8_cons_ascii hn, List.dropLast_cons_cons]

theorem isFirst_utf8_iff {mark before : List Char} (hmark : IsAscii mark) :
    IsFirst (utf8 mark) (utf8 before) ↔ IsFirst mark before := by
  rw [IsFirst, IsFirst, ← utf8_dropLast hmark, ← utf8_append, infix_utf8_iff hmark]

/-- A mark of ASCII is found in the bytes of a text where it stands first in the text. -/
theorem firstAt?_utf8 {mark before : List Char} (hmark : IsAscii mark) (hne : mark ≠ [])
    (h : IsFirst mark before) (rest : List Char) :
    firstAt? (utf8 mark) (utf8 (before ++ (mark ++ rest))) = some (utf8 before).length := by
  have hbytes : utf8 mark ≠ [] := by
    cases mark with
    | nil => exact absurd rfl hne
    | cons m mark =>
      rw [utf8_cons_ascii (hmark m List.mem_cons_self)]
      exact List.cons_ne_nil _ _
  rw [utf8_append, utf8_append]
  exact firstAt?_append hbytes ((isFirst_utf8_iff hmark).mpr h) _

/-- The last place of a character of ASCII is that of its byte. -/
theorem lastAt?_utf8 {c : Char} (hc : c.toNat < 128) {after : List Char} (h : c ∉ after)
    (before : List Char) :
    lastAt? (asciiByte c) (utf8 (before ++ c :: after)) = some (utf8 before).length := by
  rw [utf8_append, utf8_cons_ascii hc]
  exact lastAt?_append (mt (asciiByte_mem_utf8_iff hc).mp h) _

/-! ## Cuts between characters -/

/-- A position that divides no character: the beginning, the end, or the place of a byte with which
a character begins. -/
def isBoundary (bytes : List UInt8) (i : Nat) : Bool :=
  i == 0 || i == bytes.length || bytes[i]?.any fun b => b.IsUTF8FirstByte

/-- The bytes from a position on; none if it divides a character. -/
def bytesFrom? (bytes : List UInt8) (i : Nat) : Option (List UInt8) :=
  if isBoundary bytes i then some (bytes.drop i) else none

/-- The bytes before a position; none if it divides a character. -/
def bytesTo? (bytes : List UInt8) (i : Nat) : Option (List UInt8) :=
  if isBoundary bytes i then some (bytes.take i) else none

theorem isBoundary_append (s t : List Char) :
    isBoundary (utf8 (s ++ t)) (utf8 s).length = true := by
  rw [utf8_append]
  cases t with
  | nil => simp [isBoundary, utf8_eq]
  | cons c t =>
    have hfirst := UInt8.isUTF8FirstByte_getElem_zero_utf8EncodeChar (c := c)
    have hget : (utf8 s ++ utf8 (c :: t))[(utf8 s).length]? = (String.utf8EncodeChar c)[0]? := by
      rw [List.getElem?_append_right (Nat.le_refl _), Nat.sub_self, utf8_eq (c :: t),
        List.flatMap_cons, List.getElem?_append_left (by simp [c.utf8Size_pos])]
    rw [isBoundary, hget]
    simp [hfirst, c.utf8Size_pos]

theorem bytesFrom?_append (s t : List Char) :
    bytesFrom? (utf8 (s ++ t)) (utf8 s).length = some (utf8 t) := by
  rw [bytesFrom?, if_pos (isBoundary_append s t), utf8_append, List.drop_left]

/-- A cut behind a mark of ASCII is as many bytes further on as the mark has characters. -/
theorem bytesFrom?_mark {mark : List Char} (hmark : IsAscii mark) (s t : List Char) :
    bytesFrom? (utf8 (s ++ (mark ++ t))) ((utf8 s).length + mark.length) = some (utf8 t) := by
  have hcut := bytesFrom?_append (s ++ mark) t
  rw [utf8_append s mark, List.length_append, length_utf8_of_isAscii hmark,
    List.append_assoc] at hcut
  exact hcut

theorem bytesTo?_append (s t : List Char) :
    bytesTo? (utf8 (s ++ t)) (utf8 s).length = some (utf8 s) := by
  rw [bytesTo?, if_pos (isBoundary_append s t), utf8_append, List.take_left]

end PaperSearch.Text
