import PaperSearch.Proofs.Xml.Escape

/-!
# Spellings

Text can be written in many ways: each character as it is, or by a reference to its name or to its
number, decimal or hexadecimal, with zeros before it. `Spells` is the relation between what is
written and the text, and reading accepts exactly what spells a text: `expand_eq_ok_iff`.

Content that holds text alone has more spellings still, since each part of the text can stand in a
section of character data, with comments and instructions between the parts: `Content.Spells`.
-/

namespace PaperSearch.Xml

/-! ## Numbers -/

/-- The character is the digit with this value in a base up to sixteen. -/
def IsDigit (base : Nat) (c : Char) (d : Nat) : Prop :=
  d < base ∧
    ("0123456789abcdef".toList[d]? = some c ∨ "0123456789ABCDEF".toList[d]? = some c)

theorem IsDigit.mem {base d : Nat} {c : Char} (h : IsDigit base c d) :
    c ∈ "0123456789abcdefABCDEF".toList := by
  have hlists : ∀ c, c ∈ "0123456789abcdef".toList ∨ c ∈ "0123456789ABCDEF".toList →
      c ∈ "0123456789abcdefABCDEF".toList := by
    simp only [← List.mem_append]
    decide
  exact hlists c (h.2.imp List.mem_of_getElem? List.mem_of_getElem?)

/-- The digits write the number. -/
inductive Numeral (base : Nat) : List Char → Nat → Prop where
  | digit {c : Char} {d : Nat} (h : IsDigit base c d) : Numeral base [c] d
  | concat {digits : List Char} {n : Nat} {c : Char} {d : Nat} (front : Numeral base digits n)
    (h : IsDigit base c d) : Numeral base (digits ++ [c]) (base * n + d)

theorem Numeral.ne_nil {base n : Nat} {digits : List Char} (h : Numeral base digits n) :
    digits ≠ [] := by
  cases h with
  | digit => exact List.cons_ne_nil _ _
  | concat => exact List.append_ne_nil_of_right_ne_nil _ (List.cons_ne_nil _ _)

theorem digitIn?_sixteen {c : Char} {d : Nat} (h : digitIn? 16 c = some d) :
    (d < 10 ∧ c.toNat = 48 + d) ∨ ∃ k < 6, d = 10 + k ∧ (c.toNat = 65 + k ∨ c.toNat = 97 + k) := by
  unfold digitIn? at h
  dsimp only at h
  rw [Option.ite_none_right_eq_some] at h
  obtain ⟨hlt, hd⟩ := h
  have hd := Option.some.inj hd
  split at hlt
  · rename_i hrange
    rw [if_pos hrange] at hd
    exact .inl (by omega)
  · rename_i hnumber
    rw [if_neg hnumber] at hd
    split at hlt
    · rename_i hrange
      rw [if_pos hrange] at hd
      exact .inr ⟨c.toNat - 65, by omega⟩
    · rename_i hupper
      rw [if_neg hupper] at hd
      split at hlt
      · rename_i hrange
        rw [if_pos hrange] at hd
        exact .inr ⟨c.toNat - 97, by omega⟩
      · exact absurd hlt (Nat.lt_irrefl 16)

theorem digitIn?_eq_some_iff {base : Nat} (hbase : base ≤ 16) {c : Char} {d : Nat} :
    digitIn? base c = some d ↔ IsDigit base c d := by
  have hsmaller : digitIn? base c = some d ↔ d < base ∧ digitIn? 16 c = some d := by
    unfold digitIn?
    dsimp only
    repeat' split
    all_goals simp
    all_goals omega
  rw [hsmaller, IsDigit]
  refine and_congr_right fun hd => ⟨fun h => ?_, ?_⟩
  · have hc := Char.ofNat_toNat c
    rcases digitIn?_sixteen h with ⟨hlt, heq⟩ | ⟨k, hk, rfl, heq | heq⟩
    · have hlist : ∀ d < 10, "0123456789abcdef".toList[d]? = some (Char.ofNat (48 + d)) := by
        decide
      left
      rw [hlist d hlt, ← heq, hc]
    · have hlist : ∀ k < 6, "0123456789ABCDEF".toList[10 + k]? = some (Char.ofNat (65 + k)) := by
        decide
      right
      rw [hlist k hk, ← heq, hc]
    · have hlist : ∀ k < 6, "0123456789abcdef".toList[10 + k]? = some (Char.ofNat (97 + k)) := by
        decide
      left
      rw [hlist k hk, ← heq, hc]
  · have hvalue : ∀ d < 16, "0123456789abcdef".toList[d]?.bind (digitIn? 16) = some d ∧
        "0123456789ABCDEF".toList[d]?.bind (digitIn? 16) = some d := by decide
    obtain ⟨hlower, hupper⟩ := hvalue d (by omega)
    rintro (h | h)
    · rwa [h] at hlower
    · rwa [h] at hupper

section Numbers

variable {base : Nat} (hbase : base ≤ 16) {c : Char} {d n m : Nat} {digits rest : List Char}

include hbase

theorem number_of_isDigit (h : IsDigit base c d) (hlt : base * n + d < UInt32.size) :
    number base n (c :: rest) = number base (base * n + d) rest := by
  rw [number, (digitIn?_eq_some_iff hbase).mpr h]
  exact if_pos hlt

theorem exists_of_number (h : number base n (c :: rest) = .ok m) :
    ∃ d, IsDigit base c d ∧ number base (base * n + d) rest = .ok m := by
  rw [number] at h
  split at h
  · cases h
  · rename_i digit hdigit
    split at h
    · exact ⟨digit, (digitIn?_eq_some_iff hbase).mp hdigit, h⟩
    · cases h

omit hbase in
theorem number_append (h : number base n digits = .ok m) :
    number base n (digits ++ rest) = number base m rest := by
  induction digits generalizing n with
  | nil =>
    cases h
    rfl
  | cons c digits ih =>
    rw [number] at h
    rw [List.cons_append, number]
    split at h
    · cases h
    · split at h
      · rename_i hlt
        rw [if_pos hlt]
        exact ih h
      · cases h

theorem number_of_numeral (h : Numeral base digits n) (hn : n < UInt32.size) :
    number base 0 digits = .ok n := by
  induction h with
  | digit hd =>
    have hzero : ∀ c d, IsDigit base c d → base * 0 + d < UInt32.size →
        number base 0 [c] = .ok (base * 0 + d) := fun c d hd => number_of_isDigit hbase hd
    rw [hzero _ _ hd (by omega), Nat.mul_zero, Nat.zero_add]
  | @concat digits n c d front hd ih =>
    have hpos : 0 < base := Nat.lt_of_le_of_lt (Nat.zero_le d) hd.1
    have hle : n ≤ base * n := Nat.le_mul_of_pos_left n hpos
    rw [number_append (ih (by omega)), number_of_isDigit hbase hd hn]
    rfl

theorem numeral_of_number (hfront : Numeral base digits n) (h : number base n rest = .ok m) :
    Numeral base (digits ++ rest) m := by
  induction rest generalizing digits n with
  | nil =>
    cases h
    rwa [List.append_nil]
  | cons c rest ih =>
    obtain ⟨d, hd, h⟩ := exists_of_number hbase h
    have hmore := ih (.concat hfront hd) h
    rwa [List.append_assoc] at hmore

omit hbase in
theorem lt_of_number (h : number base n digits = .ok m) (hn : n < UInt32.size) :
    m < UInt32.size := by
  induction digits generalizing n with
  | nil =>
    cases h
    exact hn
  | cons c digits ih =>
    rw [number] at h
    split at h
    · cases h
    · split at h
      · rename_i hlt
        exact ih h hlt
      · cases h

/-- A number is read when it fits into 32 bits. -/
theorem unsigned_eq_ok_iff :
    unsigned base digits = .ok n ↔ Numeral base digits n ∧ n < UInt32.size := by
  cases digits with
  | nil =>
    exact iff_of_false (fun h => nomatch h) fun h => h.1.ne_nil rfl
  | cons c digits =>
    rw [unsigned]
    constructor
    · intro h
      split at h
      · cases h
      · obtain ⟨d, hd, hrest⟩ := exists_of_number hbase h
        rw [Nat.mul_zero, Nat.zero_add] at hrest
        exact ⟨numeral_of_number hbase (.digit hd) hrest, lt_of_number h (by decide)⟩
    · rintro ⟨h, hlt⟩
      have hread := number_of_numeral hbase h hlt
      obtain ⟨d, hd, -⟩ := exists_of_number hbase hread
      have hmem := hd.mem
      have hsign : ¬ (c = '+' ∨ c = '-') := by
        rintro (rfl | rfl) <;> exact absurd hmem (by decide)
      rw [if_neg hsign]
      exact hread

end Numbers

/-! ## References -/

/-- What stands between `&` and `;` refers to the character. No reference is made to the character
with number zero. -/
inductive Refers : List Char → Char → Prop where
  | name {name : List Char} {c : Char} (h : nameOf? c = some name) : Refers name c
  | decimal {digits : List Char} {c : Char} (h : Numeral 10 digits c.toNat) (hc : c.toNat ≠ 0) :
    Refers ('#' :: digits) c
  | hexadecimal {digits : List Char} {c : Char} (h : Numeral 16 digits c.toNat)
    (hc : c.toNat ≠ 0) : Refers ('#' :: 'x' :: digits) c

/-- No name begins as a number does. -/
theorem nameOf?_ne_number {c : Char} {s : List Char} : nameOf? c ≠ some ('#' :: s) := by
  unfold nameOf?
  repeat' split
  all_goals exact fun h => nomatch h

theorem Numeral.forall_mem {base n : Nat} {digits : List Char} (h : Numeral base digits n) :
    ∀ c ∈ digits, c ∈ "0123456789abcdefABCDEF".toList := by
  induction h with
  | digit hd =>
    intro c hc
    rw [List.mem_singleton.mp hc]
    exact hd.mem
  | concat _ hd ih =>
    intro c hc
    rcases List.mem_append.mp hc with hfront | hlast
    · exact ih c hfront
    · rw [List.mem_singleton.mp hlast]
      exact hd.mem

theorem not_numeral_x {base n : Nat} {s : List Char} : ¬ Numeral base ('x' :: s) n := fun h =>
  absurd (h.forall_mem 'x' List.mem_cons_self) (by decide)

/-- The character with a number that is read, if there is one. -/
theorem character_eq_ok_iff {x : Except NumberFault Nat} {c : Char} :
    (x.bind fun n =>
      if n = 0 then throw .zero
      else if n.isValidChar then pure (Char.ofNat n) else throw (.noCharacter n)) = .ok c ↔
      x = .ok c.toNat ∧ c.toNat ≠ 0 := by
  cases x with
  | error fault => exact iff_of_false (fun h => nomatch h) fun h => nomatch h.1
  | ok n =>
    rw [Except.bind, Except.ok.injEq]
    constructor
    · intro h
      split at h
      · cases h
      · rename_i hzero
        split at h
        · rename_i hvalid
          cases h
          have hn : (Char.ofNat n).toNat = n := by
            rw [Char.ofNat, dif_pos hvalid]
            rfl
          rw [hn]
          exact ⟨rfl, hzero⟩
        · cases h
    · rintro ⟨rfl, hzero⟩
      have hvalid : c.toNat.isValidChar := c.valid
      rw [if_neg hzero, if_pos hvalid, Char.ofNat_toNat]
      rfl

theorem numbered_eq_ok_iff {s : List Char} {c : Char} :
    numbered s = .ok c ↔ Refers ('#' :: s) c := by
  have hsize : c.toNat < UInt32.size := c.val.toNat_lt
  by_cases hx : ∃ digits, s = 'x' :: digits
  · obtain ⟨digits, rfl⟩ := hx
    refine character_eq_ok_iff.trans ?_
    rw [unsigned_eq_ok_iff (by decide)]
    constructor
    · exact fun h => .hexadecimal h.1.1 h.2
    · intro h
      cases h with
      | name hname => exact absurd hname nameOf?_ne_number
      | decimal hdigits => exact absurd hdigits not_numeral_x
      | hexadecimal hdigits hc => exact ⟨⟨hdigits, hsize⟩, hc⟩
  · have hnumbered : numbered s = (unsigned 10 s).bind fun n =>
        if n = 0 then throw .zero
        else if n.isValidChar then pure (Char.ofNat n) else throw (.noCharacter n) := by
      unfold numbered
      split
      · exact absurd ⟨_, rfl⟩ hx
      · rfl
    rw [hnumbered, character_eq_ok_iff, unsigned_eq_ok_iff (by decide)]
    constructor
    · exact fun h => .decimal h.1.1 h.2
    · intro h
      cases h with
      | name hname => exact absurd hname nameOf?_ne_number
      | decimal hdigits hc => exact ⟨⟨hdigits, hsize⟩, hc⟩
      | hexadecimal => exact absurd ⟨_, rfl⟩ hx

theorem named?_eq_some_iff {name : List Char} {c : Char} :
    named? name = some c ↔ nameOf? c = some name := by
  constructor
  · intro h
    unfold named? at h
    repeat' split at h
    all_goals first
      | (rename_i heq; subst heq; cases h; rfl)
      | cases h
  · intro h
    unfold nameOf? at h
    repeat' split at h
    all_goals first
      | (rename_i heq; subst heq; cases h; rfl)
      | cases h

/-- A reference is resolved to what it refers to. -/
theorem resolve_eq_ok_iff {place : Nat} {reference : List Char} {c : Char} :
    resolve place reference = .ok c ↔ Refers reference c := by
  unfold resolve
  split
  · rename_i digits
    rw [← numbered_eq_ok_iff]
    constructor
    · intro h
      cases hread : numbered digits with
      | error fault =>
        rw [hread] at h
        cases h
      | ok d =>
        rw [hread] at h
        cases h
        rfl
    · intro h
      rw [h]
      rfl
  · rename_i hnumber
    have hname : Refers reference c ↔ named? reference = some c := by
      rw [named?_eq_some_iff]
      refine ⟨fun h => ?_, .name⟩
      cases h with
      | name h => exact h
      | decimal => exact absurd rfl (hnumber _)
      | hexadecimal => exact absurd rfl (hnumber _)
    rw [hname]
    cases named? reference <;> simp

/-- References hold no punctuation of text. -/
theorem Refers.forall_mem {reference : List Char} {c : Char} (h : Refers reference c) :
    ∀ d ∈ reference, d ≠ ';' ∧ d ≠ '&' ∧ d ≠ '<' := by
  have hdigit : ∀ d ∈ "0123456789abcdefABCDEF".toList, d ≠ ';' ∧ d ≠ '&' ∧ d ≠ '<' := by decide
  cases h with
  | name hname =>
    intro d hd
    obtain ⟨hend, hstart, -, hmarkup⟩ := (resolve_of_nameOf? hname 0).2 d hd
    exact ⟨hend, hstart, hmarkup⟩
  | decimal hdigits =>
    intro d hd
    rcases List.mem_cons.mp hd with rfl | hd
    · decide
    · exact hdigit d (hdigits.forall_mem d hd)
  | hexadecimal hdigits =>
    intro d hd
    rcases List.mem_cons.mp hd with rfl | hd
    · decide
    rcases List.mem_cons.mp hd with rfl | hd
    · decide
    · exact hdigit d (hdigits.forall_mem d hd)

/-! ## Text -/

/-- What is written spells the text. -/
inductive Spells : List Char → List Char → Prop where
  | nil : Spells [] []
  | literal {c : Char} {raw s : List Char} (hmarkup : c ≠ '<') (hreference : c ≠ '&')
    (rest : Spells raw s) : Spells (c :: raw) (c :: s)
  | reference {reference : List Char} {c : Char} {raw s : List Char} (h : Refers reference c)
    (rest : Spells raw s) : Spells ('&' :: (reference ++ ';' :: raw)) (c :: s)

theorem Spells.not_mem {raw s : List Char} (h : Spells raw s) : '<' ∉ raw := by
  induction h with
  | nil => exact List.not_mem_nil
  | literal hmarkup _ _ ih =>
    rw [List.mem_cons, not_or]
    exact ⟨hmarkup.symm, ih⟩
  | reference h _ ih =>
    rw [List.mem_cons, not_or, List.mem_append, not_or, List.mem_cons, not_or]
    exact ⟨by decide, fun hmem => (h.forall_mem _ hmem).2.2 rfl, by decide, ih⟩

/-- A reference without an end cannot be read. -/
theorem expandFrom_unfinished {rest : List Char} (h : ';' ∉ rest) (size : Nat) :
    ∃ fault, expandFrom size ('&' :: rest) = .error fault := by
  have hcut := Text.cutAt?_eq_none_iff.mpr h
  rw [expandFrom, if_pos rfl]
  split
  · exact ⟨_, rfl⟩
  · rename_i hsome
    cases hcut.symm.trans hsome

/-- A reference in which another one begins cannot be read. -/
theorem expandFrom_interrupted {reference : List Char} (hend : ';' ∉ reference)
    (hstart : reference.contains '&' = true) (size : Nat) (rest : List Char) :
    ∃ fault, expandFrom size ('&' :: (reference ++ ';' :: rest)) = .error fault := by
  have hcut := Text.cutAt?_append hend rest
  rw [expandFrom, if_pos rfl]
  split
  · exact ⟨_, rfl⟩
  · rename_i hsome
    cases hcut.symm.trans hsome
    exact ⟨_, if_pos hstart⟩

theorem spells_of_expandFrom {size : Nat} {raw s : List Char} (hraw : '<' ∉ raw)
    (h : expandFrom size raw = .ok s) : Spells raw s := by
  induction raw using expandFrom.induct generalizing s with
  | case1 =>
    rw [expandFrom] at h
    cases h
    exact .nil
  | case2 rest hcut =>
    obtain ⟨fault, hfault⟩ := expandFrom_unfinished (Text.cutAt?_eq_none_iff.mp hcut) size
    cases hfault.symm.trans h
  | case3 rest reference after hcut hcontains =>
    obtain ⟨rfl, hend⟩ := Text.cutAt?_eq_some_iff.mp hcut
    obtain ⟨fault, hfault⟩ := expandFrom_interrupted hend hcontains size after
    cases hfault.symm.trans h
  | case4 rest reference after hcut hcontains ih =>
    obtain ⟨rfl, hend⟩ := Text.cutAt?_eq_some_iff.mp hcut
    have hplain : ∀ d ∈ reference, d ≠ ';' ∧ d ≠ '&' := by
      rw [List.contains_iff_mem] at hcontains
      exact fun d hd => ⟨fun heq => hend (heq ▸ hd), fun heq => hcontains (heq ▸ hd)⟩
    rw [List.mem_cons, not_or, List.mem_append, not_or, List.mem_cons, not_or] at hraw
    rw [expandFrom_reference hplain] at h
    cases hresolve : resolve (size - Text.byteLength (reference ++ ';' :: after)) reference with
    | error fault =>
      rw [hresolve] at h
      cases h
    | ok c =>
      cases htail : expandFrom size after with
      | error fault =>
        rw [hresolve, htail] at h
        cases h
      | ok tail =>
        rw [hresolve, htail] at h
        cases h
        exact .reference (resolve_eq_ok_iff.mp hresolve) (ih hraw.2.2.2 htail)
  | case5 c rest hc ih =>
    rw [List.mem_cons, not_or] at hraw
    rw [expandFrom, if_neg hc] at h
    cases htail : expandFrom size rest with
    | error fault =>
      rw [htail] at h
      cases h
    | ok tail =>
      rw [htail] at h
      cases h
      exact .literal (Ne.symm hraw.1) hc (ih hraw.2 htail)

/-- What spells a text is read before what stands behind it. -/
theorem expandFrom_append {raw s : List Char} (h : Spells raw s) (size : Nat) (rest : List Char) :
    expandFrom size (raw ++ rest) = (expandFrom size rest).map (s ++ ·) := by
  induction h with
  | nil =>
    rw [List.nil_append]
    cases expandFrom size rest <;> rfl
  | literal _ hreference _ ih =>
    rw [List.cons_append, expandFrom, if_neg hreference, ih]
    cases expandFrom size rest <;> rfl
  | reference h _ ih =>
    have hplain := h.forall_mem
    rw [List.cons_append, List.append_assoc, List.cons_append,
      expandFrom_reference fun d hd => ⟨(hplain d hd).1, (hplain d hd).2.1⟩,
      resolve_eq_ok_iff.mpr h, ih]
    cases expandFrom size rest <;> rfl

/-- **Reading accepts what spells a text, and gives the text.** -/
theorem expandFrom_eq_ok_iff {size : Nat} {raw s : List Char} (hraw : '<' ∉ raw) :
    expandFrom size raw = .ok s ↔ Spells raw s := by
  refine ⟨spells_of_expandFrom hraw, fun h => ?_⟩
  have hread := expandFrom_append h size []
  rw [List.append_nil, expandFrom.eq_1 size] at hread
  rw [hread, Except.map, List.append_nil]

theorem expand_eq_ok_iff {raw s : List Char} (hraw : '<' ∉ raw) :
    expand raw = .ok s ↔ Spells raw s :=
  expandFrom_eq_ok_iff hraw

/-! ### Text in parts -/

theorem spells_append_iff {raw raw' s t : List Char} (hraw : '<' ∉ raw') (h : Spells raw s) :
    Spells (raw ++ raw') t ↔ ∃ s', Spells raw' s' ∧ t = s ++ s' := by
  have hmarkup : '<' ∉ raw ++ raw' := by
    rw [List.mem_append, not_or]
    exact ⟨h.not_mem, hraw⟩
  have hread : ∀ s', Spells raw' s' ↔ expandFrom 0 raw' = .ok s' :=
    fun s' => (expandFrom_eq_ok_iff hraw).symm
  simp only [hread]
  rw [← expandFrom_eq_ok_iff hmarkup, expandFrom_append h 0]
  cases expandFrom 0 raw' with
  | error fault => simp [Except.map]
  | ok s' => simp [Except.map, eq_comm]

/-- Every reference in what spells a text has its end there. -/
theorem Spells.mem_of_eq {raw s front rest : List Char} (h : Spells raw s)
    (heq : raw = front ++ '&' :: rest) : ';' ∈ rest := by
  induction h generalizing front with
  | nil => simp at heq
  | literal _ hreference _ ih =>
    cases front with
    | nil => exact absurd (List.cons.inj heq).1 hreference
    | cons d front => exact ih (List.cons.inj heq).2
  | reference h _ ih =>
    cases front with
    | nil =>
      rw [← (List.cons.inj heq).2]
      exact List.mem_append_right _ List.mem_cons_self
    | cons d front =>
      rcases List.append_eq_append_iff.mp (List.cons.inj heq).2 with
        ⟨gap, rfl, hrest⟩ | ⟨gap, rfl, hrest⟩
      · cases gap with
        | nil => cases hrest
        | cons e gap => exact ih (List.cons.inj hrest).2
      · cases gap with
        | nil => cases hrest
        | cons e gap =>
          obtain rfl := (List.cons.inj hrest).1
          have hmem : '&' ∈ front ++ '&' :: gap := List.mem_append_right _ List.mem_cons_self
          exact absurd rfl (h.forall_mem _ hmem).2.1

/-- A text that can be read on, but cannot be read alone, ends in a reference. -/
theorem exists_unfinished {raw more s : List Char} (h : Spells (raw ++ more) s)
    (hraw : ¬ ∃ t, Spells raw t) : ∃ front rest, raw = front ++ '&' :: rest ∧ ';' ∉ rest := by
  generalize hwhole : raw ++ more = whole at h
  induction h generalizing raw with
  | nil =>
    rw [(List.append_eq_nil_iff.mp hwhole).1] at hraw
    exact absurd ⟨[], .nil⟩ hraw
  | @literal c whole s hmarkup hreference _ ih =>
    cases raw with
    | nil => exact absurd ⟨[], .nil⟩ hraw
    | cons d raw =>
      obtain ⟨rfl, heq⟩ := List.cons.inj hwhole
      obtain ⟨front, rest, rfl, hrest⟩ :=
        ih (fun ⟨t, ht⟩ => hraw ⟨d :: t, .literal hmarkup hreference ht⟩) heq
      exact ⟨d :: front, rest, rfl, hrest⟩
  | @reference reference c whole s hrefers _ ih =>
    cases raw with
    | nil => exact absurd ⟨[], .nil⟩ hraw
    | cons d raw =>
      obtain ⟨rfl, heq⟩ := List.cons.inj hwhole
      have hend : ';' ∉ reference := fun hmem => (hrefers.forall_mem _ hmem).1 rfl
      rcases List.append_eq_append_iff.mp heq with ⟨gap, rfl, -⟩ | ⟨gap, rfl, hgap⟩
      · exact ⟨[], raw, rfl, fun hmem => hend (List.mem_append_left _ hmem)⟩
      · cases gap with
        | nil =>
          rw [List.append_nil]
          exact ⟨[], reference, rfl, hend⟩
        | cons e gap =>
          obtain ⟨rfl, rfl⟩ := List.cons.inj hgap
          obtain ⟨front, rest, rfl, hrest⟩ :=
            ih (fun ⟨t, ht⟩ => hraw ⟨c :: t, .reference hrefers ht⟩) rfl
          refine ⟨'&' :: (reference ++ ';' :: front), rest, ?_, hrest⟩
          rw [List.cons_append, List.append_assoc, List.cons_append]

/-! ## Content -/

/-- The piece is a comment or an instruction. -/
def Piece.IsAside : Piece → Prop
  | .comment _ | .instruction _ => True
  | _ => False

/-- The content spells the text: in parts that are written as text or as character data, with
comments and instructions between them. -/
inductive Content.Spells : Content → List Char → Prop where
  | last {raw s : List Char} (h : Xml.Spells raw s) : Spells (.last raw) s
  | characters {raw s data t : List Char} {content : Content} (h : Xml.Spells raw s)
    (valid : (Piece.characters data).Valid) (rest : Spells content t) :
    Spells (.next raw (.characters data) content) (s ++ (data ++ t))
  | aside {raw s t : List Char} {piece : Piece} {content : Content} (h : Xml.Spells raw s)
    (isAside : piece.IsAside) (valid : piece.Valid) (rest : Spells content t) :
    Spells (.next raw piece content) (s ++ t)

theorem Content.Spells.content_valid {content : Content} {s : List Char} (h : content.Spells s) :
    content.Valid := by
  induction h with
  | last h => exact h.not_mem
  | characters h valid _ ih => exact ⟨h.not_mem, valid, ih⟩
  | aside h _ valid _ ih => exact ⟨h.not_mem, valid, ih⟩

/-- The content holds no elements. -/
def Content.IsData : Content → Prop
  | .last _ => True
  | .next _ (.element ..) _ | .next _ (.empty _) _ => False
  | .next _ _ rest => rest.IsData

end PaperSearch.Xml
