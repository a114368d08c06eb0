import PaperSearch.Text.Cut

/-!
# Cuts of what was put together

A text that is followed by what it is cut at is given back by the cut, if the cut cannot fall
before its end: because it does not hold the character (`cutAt?_append`) or the mark
(`cutAtMark?_append`), or because its quotes are closed (`cutUnquoted?_append`). Conversely a text
that is cut was put together so, and the same cut is made whatever follows it.
-/

namespace PaperSearch.Text

/-- What holds of all characters of a text is decided by a look at the text, and not at all
characters that there are. -/
instance decidableForallMem (p : Char → Prop) [DecidablePred p] (s : List Char) :
    Decidable (∀ c ∈ s, p c) :=
  List.decidableBAll p s

theorem length_le_byteLength (s : List Char) : s.length ≤ byteLength s := by
  have hfold : ∀ n, n + s.length ≤ s.foldl (fun n c => n + c.utf8Size) n := by
    induction s with
    | nil => exact Nat.le_refl
    | cons c s ih =>
      intro n
      have hc := c.utf8Size_pos
      have hrest := ih (n + c.utf8Size)
      rw [List.foldl_cons, List.length_cons]
      omega
  have h := hfold 0
  rwa [Nat.zero_add] at h

/-! ## Characters of a kind -/

section Runs

variable {test : Char → Bool} {s rest : List Char}

theorem takeWhile_append_of_forall (hs : ∀ c ∈ s, test c = true)
    (hrest : ∀ c ∈ rest.head?, test c = false) : (s ++ rest).takeWhile test = s := by
  rw [List.takeWhile_append_of_pos hs]
  cases rest with
  | nil => exact List.append_nil s
  | cons c rest => simp [hrest c rfl]

theorem dropWhile_append_of_forall (hs : ∀ c ∈ s, test c = true)
    (hrest : ∀ c ∈ rest.head?, test c = false) : (s ++ rest).dropWhile test = rest := by
  rw [List.dropWhile_append_of_pos hs]
  cases rest with
  | nil => rfl
  | cons c rest => simp [hrest c rfl]

end Runs

theorem cutAt?_append {c : Char} {s : List Char} (h : c ∉ s) (rest : List Char) :
    cutAt? (fun d => d == c) (s ++ c :: rest) = some (s, rest) := by
  induction s with
  | nil => simp [cutAt?]
  | cons d s ih =>
    have hd : (d == c) = false := beq_false_of_ne fun heq => h (heq ▸ List.mem_cons_self)
    rw [List.cons_append, cutAt?, hd, ih fun hmem => h (List.mem_cons_of_mem d hmem)]
    rfl

/-! ## Quotes -/

/-- No `>` stands outside quotes and every quote is closed, given the quote that is open before the
text. -/
def quotesClose : Option Char → List Char → Bool
  | quote, [] => quote.isNone
  | none, c :: rest =>
    c != '>' && quotesClose (if c = '\'' ∨ c = '"' then some c else none) rest
  | some q, c :: rest => quotesClose (if c = q then none else some q) rest

theorem cutUnquoted?_append {quote : Option Char} {s : List Char} (h : quotesClose quote s = true)
    (rest : List Char) : cutUnquoted? quote (s ++ '>' :: rest) = some (s, rest) := by
  induction s generalizing quote with
  | nil =>
    cases quote with
    | none => rfl
    | some q => cases h
  | cons c s ih =>
    cases quote with
    | none =>
      rw [quotesClose, Bool.and_eq_true, bne_iff_ne] at h
      rw [List.cons_append, cutUnquoted?, if_neg h.1, ih h.2]
      rfl
    | some q =>
      rw [quotesClose] at h
      rw [List.cons_append, cutUnquoted?, ih h]
      rfl

theorem quotesClose_of_forall {s : List Char} (h : ∀ c ∈ s, c ≠ '>' ∧ c ≠ '\'' ∧ c ≠ '"') :
    quotesClose none s = true := by
  induction s with
  | nil => rfl
  | cons c s ih =>
    obtain ⟨hclose, hsingle, hdouble⟩ := h c List.mem_cons_self
    rw [quotesClose, if_neg (by simp [hsingle, hdouble]),
      ih fun d hd => h d (List.mem_cons_of_mem c hd)]
    simpa using hclose

/-- Where all quotes are closed a text may go on. -/
theorem quotesClose_append {quote : Option Char} {s : List Char} (h : quotesClose quote s = true)
    (t : List Char) : quotesClose quote (s ++ t) = quotesClose none t := by
  induction s generalizing quote with
  | nil =>
    cases quote with
    | none => rfl
    | some q => cases h
  | cons c s ih =>
    cases quote with
    | none =>
      rw [quotesClose, Bool.and_eq_true] at h
      rw [List.cons_append, quotesClose, h.1, ih h.2, Bool.true_and]
    | some q =>
      rw [quotesClose] at h
      rw [List.cons_append, quotesClose, ih h]

theorem quotesClose_quoted {q : Char} {s : List Char} (h : q ∉ s) :
    quotesClose (some q) (s ++ [q]) = true := by
  induction s with
  | nil => simp [quotesClose]
  | cons c s ih =>
    have hc : c ≠ q := fun heq => h (heq ▸ List.mem_cons_self)
    rw [List.cons_append, quotesClose, if_neg hc]
    exact ih fun hmem => h (List.mem_cons_of_mem c hmem)

/-! ## Marks -/

/-- A mark that ends with a character of its own does not begin in a text without it and go on
behind. -/
theorem not_prefix_append {mark s : List Char} {last : Char} (hlast : last ∉ mark) (hs : s ≠ [])
    (h : ¬ mark ++ [last] <+: s) (rest : List Char) :
    ¬ mark ++ [last] <+: s ++ (mark ++ [last] ++ rest) := by
  intro hprefix
  by_cases hlen : mark.length < s.length
  · have hle : (mark ++ [last]).length ≤ s.length := by
      rw [List.length_append]
      exact hlen
    exact h (List.prefix_of_prefix_length_le hprefix (List.prefix_append s _) hle)
  · have hpos := List.length_pos_iff.mpr hs
    have hget : (s ++ (mark ++ [last] ++ rest))[mark.length]? = some last := by
      obtain ⟨t, ht⟩ := hprefix
      rw [← ht]
      simp
    rw [List.getElem?_append_right (by omega), List.append_assoc,
      List.getElem?_append_left (by omega)] at hget
    exact hlast (List.mem_of_getElem? hget)

theorem cutAtMark?_append {mark s : List Char} {last : Char} (hlast : last ∉ mark)
    (h : ¬ mark ++ [last] <:+: s) (rest : List Char) :
    cutAtMark? (mark ++ [last]) (s ++ (mark ++ [last] ++ rest)) = some (s, rest) := by
  induction s with
  | nil =>
    cases htext : mark ++ [last] ++ rest with
    | nil => simp at htext
    | cons c text =>
      have hprefix : (mark ++ [last]).isPrefixOf (c :: text) = true := by
        rw [← htext]
        exact List.isPrefixOf_iff_prefix.mpr (List.prefix_append _ _)
      have hmax : max 1 (mark ++ [last]).length = (mark ++ [last]).length := by simp
      rw [List.nil_append, cutAtMark?, if_pos hprefix, hmax, ← htext, List.drop_left]
  | cons c s ih =>
    have hprefix := not_prefix_append hlast (List.cons_ne_nil c s)
      (fun hp => h hp.isInfix) rest
    have hinfix : ¬ mark ++ [last] <:+: s := fun hp => h (List.infix_cons hp)
    rw [List.cons_append, cutAtMark?, if_neg (by simpa using hprefix), ih hinfix]
    rfl

/-! ## Cuts undone

A text that is cut is what stands before the cut, what it is cut at and the rest, and no cut looks
at the rest. -/

theorem cutAt?_eq_some_iff {c : Char} {s front rest : List Char} :
    cutAt? (fun d => d == c) s = some (front, rest) ↔ s = front ++ c :: rest ∧ c ∉ front := by
  refine ⟨fun h => ?_, fun h => h.1 ▸ cutAt?_append h.2 rest⟩
  induction s generalizing front with
  | nil => cases h
  | cons d s ih =>
    rw [cutAt?] at h
    split at h
    · rename_i hd
      cases h
      exact ⟨by rw [beq_iff_eq.mp hd]; rfl, List.not_mem_nil⟩
    · rename_i hd
      obtain ⟨⟨inner, after⟩, hcut, heq⟩ := Option.map_eq_some_iff.mp h
      cases heq
      obtain ⟨rfl, hinner⟩ := ih hcut
      have hne : c ≠ d := fun heq => hd (beq_iff_eq.mpr heq.symm)
      exact ⟨rfl, List.not_mem_cons_of_ne_of_not_mem hne hinner⟩

theorem cutAt?_eq_none_iff {c : Char} {s : List Char} :
    cutAt? (fun d => d == c) s = none ↔ c ∉ s := by
  induction s with
  | nil => simp [cutAt?]
  | cons d s ih =>
    rw [cutAt?, List.mem_cons, not_or, ← ih]
    by_cases hd : d = c
    · simp [hd]
    · simp [hd, Ne.symm hd]

/-- The text is cut into these parts, and its front is cut off alike whatever stands behind the
cut. -/
def CutsOff (cut : List Char → Option (List Char × List Char)) (s front rest : List Char) : Prop :=
  ∃ piece, s = piece ++ rest ∧ ∀ more, cut (piece ++ more) = some (front, more)

/-- The first character belongs to what is cut off, if nothing is cut off from nothing. -/
theorem CutsOff.tail {cut : List Char → Option (List Char × List Char)} (hnil : cut [] = none)
    {c : Char} {s front rest : List Char} (h : CutsOff cut (c :: s) front rest) :
    CutsOff (fun t => cut (c :: t)) s front rest := by
  obtain ⟨piece, heq, hpiece⟩ := h
  cases piece with
  | nil =>
    have hcut := hpiece []
    rw [List.append_nil, hnil] at hcut
    cases hcut
  | cons d piece =>
    cases heq
    exact ⟨piece, rfl, hpiece⟩

/-- A cut further on is made behind one character more. -/
theorem CutsOff.cons {cut cut' : List Char → Option (List Char × List Char)} {c : Char}
    {s front rest : List Char} (h : CutsOff cut s front rest)
    (hcons : ∀ piece more, cut (piece ++ more) = some (front, more) →
      cut piece = some (front, []) → s = piece ++ rest →
        cut' (c :: (piece ++ more)) = some (c :: front, more)) :
    CutsOff cut' (c :: s) (c :: front) rest := by
  obtain ⟨piece, rfl, hpiece⟩ := h
  have hself := hpiece []
  rw [List.append_nil] at hself
  exact ⟨c :: piece, rfl, fun more => hcons piece more (hpiece more) hself rfl⟩

theorem cutsOff_of_cutUnquoted? {quote : Option Char} {s front rest : List Char}
    (h : cutUnquoted? quote s = some (front, rest)) :
    CutsOff (cutUnquoted? quote) s front rest := by
  induction s generalizing quote front with
  | nil => cases h
  | cons c s ih =>
    cases quote with
    | none =>
      rw [cutUnquoted?] at h
      split at h
      · rename_i hc
        cases h
        exact ⟨[c], rfl, fun more => by rw [List.singleton_append, cutUnquoted?, if_pos hc]⟩
      · rename_i hc
        obtain ⟨⟨inner, after⟩, hcut, heq⟩ := Option.map_eq_some_iff.mp h
        cases heq
        refine (ih hcut).cons fun piece more hmore _ _ => ?_
        rw [cutUnquoted?, if_neg hc, hmore]
        rfl
    | some q =>
      rw [cutUnquoted?] at h
      obtain ⟨⟨inner, after⟩, hcut, heq⟩ := Option.map_eq_some_iff.mp h
      cases heq
      refine (ih hcut).cons fun piece more hmore _ _ => ?_
      rw [cutUnquoted?, hmore]
      rfl

theorem cutsOff_of_cutBalanced? {depth : Nat} {s front rest : List Char}
    (h : cutBalanced? depth s = some (front, rest)) :
    CutsOff (cutBalanced? depth) s front rest := by
  induction s generalizing depth front with
  | nil => cases h
  | cons c s ih =>
    unfold cutBalanced? at h
    split at h
    · rename_i hc
      subst hc
      cases depth with
      | zero =>
        cases h
        exact ⟨['>'], rfl, fun more => rfl⟩
      | succ depth =>
        obtain ⟨⟨inner, after⟩, hcut, heq⟩ := Option.map_eq_some_iff.mp h
        cases heq
        refine (ih hcut).cons fun piece more hmore _ _ => ?_
        show (cutBalanced? depth (piece ++ more)).map _ = _
        rw [hmore]
        rfl
    · rename_i hc
      obtain ⟨⟨inner, after⟩, hcut, heq⟩ := Option.map_eq_some_iff.mp h
      cases heq
      refine (ih hcut).cons fun piece more hmore _ _ => ?_
      unfold cutBalanced?
      rw [if_neg hc, hmore]
      rfl

theorem length_le_of_cutAtMark? {mark s front rest : List Char}
    (h : cutAtMark? mark s = some (front, rest)) : mark.length ≤ s.length := by
  induction s generalizing front with
  | nil => cases h
  | cons c s ih =>
    rw [cutAtMark?] at h
    split at h
    · rename_i hprefix
      exact (List.isPrefixOf_iff_prefix.mp hprefix).length_le
    · obtain ⟨⟨inner, after⟩, hcut, heq⟩ := Option.map_eq_some_iff.mp h
      cases heq
      exact Nat.le_succ_of_le (ih hcut)

theorem cutsOff_of_cutAtMark? {mark s front rest : List Char} (hmark : mark ≠ [])
    (h : cutAtMark? mark s = some (front, rest)) :
    CutsOff (cutAtMark? mark) s front rest := by
  induction s generalizing front with
  | nil => cases h
  | cons c s ih =>
    rw [cutAtMark?] at h
    split at h
    · rename_i hprefix
      obtain ⟨after, hafter⟩ := List.isPrefixOf_iff_prefix.mp hprefix
      have hmax : max 1 mark.length = mark.length :=
        Nat.max_eq_right (List.length_pos_iff.mpr hmark)
      rw [hmax, ← hafter, List.drop_left] at h
      cases h
      refine ⟨mark, hafter.symm, fun more => ?_⟩
      cases mark with
      | nil => exact absurd rfl hmark
      | cons d mark =>
        have hfront : (d :: mark).isPrefixOf (d :: (mark ++ more)) = true :=
          List.isPrefixOf_iff_prefix.mpr (List.prefix_append (d :: mark) more)
        rw [List.cons_append, cutAtMark?, if_pos hfront, hmax, ← List.cons_append, List.drop_left]
    · rename_i hprefix
      obtain ⟨⟨inner, after⟩, hcut, heq⟩ := Option.map_eq_some_iff.mp h
      cases heq
      refine (ih hcut).cons fun piece more hmore hself hs => ?_
      subst hs
      -- The mark is no longer than the piece, so what follows decides nothing about it.
      have hlength : mark.length ≤ (c :: piece).length :=
        Nat.le_succ_of_le (length_le_of_cutAtMark? hself)
      have hnot : ¬ mark.isPrefixOf (c :: (piece ++ more)) = true := by
        rw [List.isPrefixOf_iff_prefix, ← List.cons_append]
        rw [List.isPrefixOf_iff_prefix, ← List.cons_append] at hprefix
        intro hlater
        have hpiece :=
          List.prefix_of_prefix_length_le hlater (List.prefix_append (c :: piece) more) hlength
        exact hprefix (hpiece.trans (List.prefix_append _ _))
      rw [cutAtMark?, if_neg hnot, hmore]
      rfl

end PaperSearch.Text
