import PaperSearch.Proofs.Results
import PaperSearch.Query.Token

/-!
# Scanning a text piece by piece

At every character the open word goes on or ends (`Position.goesOn`), and a scan is one of two
steps accordingly. A scan of a longer text goes on after a piece of it from a position that depends
on the piece alone, as long as nothing at the end of the piece is decided by what follows. Two
predicates carry this:

* `staysOpen`: a scan that reads the text as part of a value ends it outside brackets with the word
  still open. It looks ahead no further than the text itself.
* `EndsWord`: what follows ends any word that is open, by a parenthesis, by a blank before
  something new, or because nothing follows.

`scanFrom_value` and `scanFrom_endsWord` are the two halves of a word with a value. In the other
direction `exists_completes` says how a scan completes the word that is open: with a piece of the
text that a scan from the same position alone reads into the same word.
-/

namespace PaperSearch.Token

/-! ## Steps -/

/-- No word is open, and so many parentheses are. -/
def Position.clear (depth : Nat) : Position :=
  ⟨[], false, false, depth⟩

@[simp] theorem Position.clear_depth (depth : Nat) : (clear depth).depth = depth := rfl

@[simp] theorem Position.clear_inBracket (depth : Nat) : (clear depth).inBracket = false := rfl

@[simp] theorem Position.clear_inValue (depth : Nat) : (clear depth).inValue = false := rfl

@[simp] theorem Position.flush_clear (depth : Nat) : (clear depth).flush = [] := rfl

theorem Position.flush_of_word {p : Position} (h : p.word ≠ []) :
    p.flush = [.word p.word.reverse] := by
  simp [flush, h]

/-- Characters that belong to a word wherever they stand. -/
def isPlain (c : Char) : Bool :=
  !Text.isBlank c && !isParen c && c != '[' && c != ':'

section Steps

variable {p : Position} {c : Char} {rest : List Char}

theorem scanFrom_inBracket (h : p.inBracket = true) :
    scanFrom p (c :: rest) = scanFrom { p.grow c with inBracket := c != ']' } rest := by
  rw [scanFrom, if_pos h]

theorem scanFrom_opening (h : p.inBracket = false) :
    scanFrom p ('(' :: rest) =
      (scanFrom (.clear (p.depth + 1)) rest).map fun ts => p.flush ++ .opening :: ts := by
  rw [scanFrom, if_neg (by simp [h]), if_pos rfl]
  simp only [Position.close, Position.clear, h]

theorem scanFrom_closing (h : p.inBracket = false) (hd : p.depth ≠ 0) :
    scanFrom p (')' :: rest) =
      (scanFrom (.clear (p.depth - 1)) rest).map fun ts => p.flush ++ .closing :: ts := by
  rw [scanFrom, if_neg (by simp [h]), if_neg (by decide), if_pos rfl, if_neg hd]
  simp only [Position.close, Position.clear, h]

theorem scanFrom_bracket (h : p.inBracket = false) :
    scanFrom p ('[' :: rest) = scanFrom { p.grow '[' with inBracket := true } rest := by
  rw [scanFrom, if_neg (by simp [h]), if_neg (by decide), if_neg (by decide), if_pos rfl]

theorem scanFrom_colon (h : p.inBracket = false) :
    scanFrom p (':' :: rest) = scanFrom { p.grow ':' with inValue := true } rest := by
  rw [scanFrom, if_neg (by simp [h]), if_neg (by decide), if_neg (by decide), if_neg (by decide),
    if_pos rfl]

/-- A blank is none of the other characters that end or change a word. -/
theorem ne_of_isBlank (hc : Text.isBlank c = true) : c ≠ '(' ∧ c ≠ ')' ∧ c ≠ '[' ∧ c ≠ ':' := by
  refine ⟨?_, ?_, ?_, ?_⟩ <;>
    · rintro rfl
      revert hc
      decide

theorem scanFrom_blank_inValue (h : p.inBracket = false) (hv : p.inValue = true)
    (hc : Text.isBlank c = true) (he : endsValue rest = false) :
    scanFrom p (c :: rest) = scanFrom (p.grow c) rest := by
  obtain ⟨h1, h2, h3, h4⟩ := ne_of_isBlank hc
  rw [scanFrom, if_neg (by simp [h]), if_neg h1, if_neg h2, if_neg h3, if_neg h4, if_pos hc,
    if_pos (by simp [hv, he])]

theorem scanFrom_blank (h : p.inBracket = false) (hc : Text.isBlank c = true)
    (he : p.inValue = true → endsValue rest = true) :
    scanFrom p (c :: rest) = (scanFrom (.clear p.depth) rest).map fun ts => p.flush ++ ts := by
  obtain ⟨h1, h2, h3, h4⟩ := ne_of_isBlank hc
  have hcond : ¬ (p.inValue && !endsValue rest) = true := by
    cases hv : p.inValue
    · simp
    · simp [he hv]
  rw [scanFrom, if_neg (by simp [h]), if_neg h1, if_neg h2, if_neg h3, if_neg h4, if_pos hc,
    if_neg hcond]
  simp only [Position.close, Position.clear, h]

/-- Any other character makes the open word longer. -/
theorem scanFrom_other (h : p.inBracket = false) (hb : Text.isBlank c = false)
    (hp : isParen c = false) (hs : c ≠ '[') :
    scanFrom p (c :: rest) =
      scanFrom { p.grow c with inValue := p.inValue || c == ':' } rest := by
  simp only [isParen, Bool.or_eq_false_iff, beq_eq_false_iff_ne] at hp
  by_cases hcolon : c = ':'
  · subst hcolon
    rw [scanFrom_colon h]
    simp
  · rw [scanFrom, if_neg (by simp [h]), if_neg hp.1, if_neg hp.2, if_neg hs, if_neg hcolon,
      if_neg (by simp [hb])]
    simp [Position.grow, beq_false_of_ne hcolon]

/-- The open word goes on with a character that has this text after it. -/
def Position.goesOn (p : Position) (c : Char) (rest : List Char) : Bool :=
  p.inBracket || !isParen c && !(Text.isBlank c && (!p.inValue || endsValue rest))

/-- The position after a character with which the open word goes on. -/
def Position.read (p : Position) (c : Char) : Position where
  word := c :: p.word
  inValue := p.inValue || !p.inBracket && c == ':'
  inBracket := if p.inBracket then c != ']' else c == '['
  depth := p.depth

theorem scanFrom_goesOn (h : p.goesOn c rest = true) :
    scanFrom p (c :: rest) = scanFrom (p.read c) rest := by
  cases hb : p.inBracket with
  | true =>
    rw [scanFrom_inBracket hb]
    simp [Position.read, Position.grow, hb]
  | false =>
    simp only [Position.goesOn, hb, Bool.false_or, Bool.and_eq_true, Bool.not_eq_true'] at h
    obtain ⟨hparen, hends⟩ := h
    by_cases hs : c = '['
    · subst hs
      rw [scanFrom_bracket hb]
      simp [Position.read, Position.grow, hb]
    · have hne : (c == '[') = false := beq_false_of_ne hs
      cases hblank : Text.isBlank c with
      | true =>
        simp only [hblank, Bool.true_and, Bool.or_eq_false_iff, Bool.not_eq_false'] at hends
        rw [scanFrom_blank_inValue hb hends.1 hblank hends.2]
        simp [Position.read, Position.grow, hb, hne, hends.1]
      | false =>
        rw [scanFrom_other hb hblank hparen hs]
        simp [Position.read, Position.grow, hb, hne]

/-- The open word ends at a parenthesis, or at a blank that is no part of a value. -/
theorem ends_of_not_goesOn (h : p.goesOn c rest = false) :
    p.inBracket = false ∧ (c = '(' ∨ c = ')' ∨
      Text.isBlank c = true ∧ (p.inValue = true → endsValue rest = true)) := by
  simp only [Position.goesOn, Bool.or_eq_false_iff, Bool.and_eq_false_iff, Bool.not_eq_false',
    isParen, Bool.or_eq_true, beq_iff_eq, Bool.and_eq_true, Bool.not_eq_true'] at h
  refine ⟨h.1, ?_⟩
  rcases h.2 with (hopening | hclosing) | ⟨hblank, hends⟩
  · exact Or.inl hopening
  · exact Or.inr (Or.inl hclosing)
  · refine Or.inr (Or.inr ⟨hblank, fun hv => ?_⟩)
    simpa [hv] using hends

/-- Where the open word does not go on, the scan goes on as if there were none. -/
theorem scanFrom_not_goesOn (h : p.goesOn c rest = false) :
    scanFrom p (c :: rest) =
      (scanFrom (.clear p.depth) (c :: rest)).map fun ts => p.flush ++ ts := by
  obtain ⟨hb, rfl | rfl | ⟨hblank, hlook⟩⟩ := ends_of_not_goesOn h
  · rw [scanFrom_opening hb, scanFrom_opening (Position.clear_inBracket _), map_map]
    rfl
  · by_cases hd : p.depth = 0
    · simp [scanFrom, hb, hd, Except.map]
    · rw [scanFrom_closing hb hd, scanFrom_closing (Position.clear_inBracket _) hd, map_map]
      rfl
  · rw [scanFrom_blank hb hblank hlook,
      scanFrom_blank (Position.clear_inBracket _) hblank (by simp), map_map]
    rfl

end Steps

/-- A piece of plain characters is read into the open word. -/
theorem scanFrom_plain {piece : List Char} (hPlain : ∀ c ∈ piece, isPlain c = true)
    (rest : List Char) {p : Position} (h : p.inBracket = false) :
    scanFrom p (piece ++ rest) = scanFrom { p with word := piece.reverse ++ p.word } rest := by
  induction piece generalizing p with
  | nil => rfl
  | cons c piece ih =>
    have hc := hPlain c List.mem_cons_self
    simp only [isPlain, Bool.and_eq_true, Bool.not_eq_true', bne_iff_ne] at hc
    obtain ⟨⟨⟨hb, hp⟩, hs⟩, hcolon⟩ := hc
    have hGrow : ({ p.grow c with inValue := p.inValue || c == ':' } : Position).inBracket =
        false := h
    rw [List.cons_append, scanFrom_other h hb hp hs,
      ih (fun d hd => hPlain d (List.mem_cons_of_mem c hd)) hGrow]
    simp [Position.grow, beq_false_of_ne hcolon]

/-! ## Ends of words -/

/-- The text ends every word that is open before it, also one in which a value is open. -/
def EndsWord : List Char → Prop
  | [] => True
  | c :: rest => isParen c = true ∨ Text.isBlank c = true ∧ endsValue rest = true

theorem endsWord_nil : EndsWord [] := trivial

theorem endsWord_closing (rest : List Char) : EndsWord (')' :: rest) := Or.inl rfl

theorem endsWord_space {rest : List Char} (h : endsValue rest = true) : EndsWord (' ' :: rest) :=
  Or.inr ⟨by decide, h⟩

/-- A text that ends words begins with a character that belongs to no word, if with any. -/
theorem EndsWord.head {text : List Char} (h : EndsWord text) :
    ∀ c ∈ text.head?, (!Text.isBlank c && !isParen c) = false := by
  cases text with
  | nil => simp
  | cons c rest =>
    rcases h with h | ⟨h, -⟩ <;> simp [h]

theorem goesOn_of_endsWord {p : Position} (h : p.inBracket = false) {c : Char} {rest : List Char}
    (hEnd : EndsWord (c :: rest)) : p.goesOn c rest = false := by
  rcases hEnd with hparen | ⟨hblank, hends⟩
  · simp [Position.goesOn, h, hparen]
  · simp [Position.goesOn, h, hblank, hends]

theorem endsWord_of_not_goesOn {p : Position} {c : Char} {rest : List Char}
    (h : p.goesOn c rest = false) (hv : p.inValue = true) : EndsWord (c :: rest) := by
  obtain ⟨-, rfl | rfl | ⟨hblank, hlook⟩⟩ := ends_of_not_goesOn h
  · exact Or.inl rfl
  · exact Or.inl rfl
  · exact Or.inr ⟨hblank, hlook hv⟩

/-- At the end of a word a scan goes on as if no word were open, after what the open word gives. -/
theorem scanFrom_flush {p : Position} (h : p.inBracket = false) {rest : List Char}
    (hEnd : EndsWord rest) :
    scanFrom p rest = (scanFrom (.clear p.depth) rest).map fun ts => p.flush ++ ts := by
  cases rest with
  | nil =>
    simp only [scanFrom, h, Position.clear_inBracket, Position.clear_depth, Position.flush_clear,
      Bool.false_eq_true, if_false]
    by_cases hd : p.depth = 0 <;> simp [hd, Except.map]
  | cons c rest => rw [scanFrom_not_goesOn (goesOn_of_endsWord h hEnd)]

/-- The open word of a position is complete at the end of a word. -/
theorem scanFrom_endsWord {p : Position} (h : p.inBracket = false) (hw : p.word ≠ [])
    {rest : List Char} (hEnd : EndsWord rest) :
    scanFrom p rest =
      (scanFrom (.clear p.depth) rest).map fun ts => .word p.word.reverse :: ts := by
  rw [scanFrom_flush h hEnd, Position.flush_of_word hw]
  rfl

/-- Blanks in front of a word are passed over. -/
theorem scanFrom_clear_blanks {blanks : List Char} (h : ∀ c ∈ blanks, Text.isBlank c = true)
    (depth : Nat) (rest : List Char) :
    scanFrom (.clear depth) (blanks ++ rest) = scanFrom (.clear depth) rest := by
  induction blanks with
  | nil => rfl
  | cons c blanks ih =>
    obtain ⟨hc, hblanks⟩ := List.forall_mem_cons.mp h
    rw [List.cons_append, scanFrom_blank (Position.clear_inBracket _) hc (by simp)]
    exact (congrFun Except.map_id _).trans (ih hblanks)

theorem scanFrom_clear_space (depth : Nat) (rest : List Char) :
    scanFrom (.clear depth) (' ' :: rest) = scanFrom (.clear depth) rest :=
  scanFrom_clear_blanks (List.forall_mem_singleton.mpr (by decide)) depth rest

/-! ## Values -/

/-- Does a scan in a value, in brackets or not, end outside brackets with the word still open? -/
def staysOpen : Bool → List Char → Bool
  | inBracket, [] => !inBracket
  | true, c :: rest => staysOpen (c != ']') rest
  | false, c :: rest =>
    if c = '[' then staysOpen true rest
    else !isParen c && !(Text.isBlank c && endsValue rest) && staysOpen false rest

theorem takeWhile_append_of_head {test : Char → Bool} {s t : List Char}
    (h : ∀ c ∈ t.head?, test c = false) : (s ++ t).takeWhile test = s.takeWhile test := by
  have ht : t.takeWhile test = [] := by
    cases t with
    | nil => rfl
    | cons c t => rw [List.takeWhile_cons, if_neg (by simp [h c rfl])]
  rw [List.takeWhile_append]
  split
  · rename_i hlen
    rw [ht, List.append_nil]
    exact ((List.takeWhile_prefix test).eq_of_length hlen).symm
  · rfl

/-- Looking ahead stops at the end of a word. -/
theorem endsValue_append {s t : List Char} (h : EndsWord t) :
    endsValue (s ++ t) = endsValue s := by
  unfold endsValue
  rw [List.dropWhile_append]
  cases hs : s.dropWhile Text.isBlank with
  | nil =>
    simp only [List.isEmpty_nil, if_true]
    cases t with
    | nil => rfl
    | cons c rest =>
      rcases h with hparen | ⟨hblank, hends⟩
      · have hc : Text.isBlank c = false := by
          cases hc : Text.isBlank c with
          | false => rfl
          | true => simp [isParen, ne_of_isBlank hc] at hparen
        simp [hc, hparen]
      · rw [List.dropWhile_cons, if_pos hblank]
        exact hends
  | cons c cs =>
    simp only [List.isEmpty_cons, Bool.false_eq_true, if_false, List.cons_append]
    rw [← List.cons_append, takeWhile_append_of_head h.head]

/-- Blanks in front do not matter to looking ahead. -/
theorem endsValue_blanks {blanks : List Char} (h : ∀ c ∈ blanks, Text.isBlank c = true)
    (rest : List Char) : endsValue (blanks ++ rest) = endsValue rest := by
  unfold endsValue
  rw [List.dropWhile_append_of_pos h]

/-- Looking ahead sees the next word as far as blanks and parentheses. -/
theorem endsValue_run {run after : List Char} (hne : run ≠ [])
    (hrun : ∀ c ∈ run, (!Text.isBlank c && !isParen c) = true)
    (hafter : ∀ c ∈ after.head?, (!Text.isBlank c && !isParen c) = false) :
    endsValue (run ++ after) = ((Operator.ofKeyword? run).isSome || run.contains ':') := by
  have hnext : (run ++ after).takeWhile (fun c => !Text.isBlank c && !isParen c) = run := by
    have hnil := takeWhile_append_of_head (s := []) hafter
    rw [List.takeWhile_append_of_pos hrun, ← List.nil_append after, hnil, List.takeWhile_nil,
      List.append_nil]
  cases run with
  | nil => exact absurd rfl hne
  | cons c run =>
    have hc := hrun c List.mem_cons_self
    simp only [Bool.and_eq_true, Bool.not_eq_true'] at hc
    rw [List.cons_append] at hnext ⊢
    rw [endsValue, List.dropWhile_cons, if_neg (by simp [hc.1])]
    simp only [hc.2, Bool.false_or, hnext]

theorem goesOn_append (p : Position) (c : Char) {s t : List Char} (h : EndsWord t) :
    p.goesOn c (s ++ t) = p.goesOn c s := by
  unfold Position.goesOn
  rw [endsValue_append h]

theorem staysOpen_cons {p : Position} (hv : p.inValue = true) (c : Char) (rest : List Char) :
    staysOpen p.inBracket (c :: rest) =
      (p.goesOn c rest && staysOpen (p.read c).inBracket rest) := by
  cases hb : p.inBracket with
  | true => simp [staysOpen, Position.goesOn, Position.read, hb]
  | false =>
    by_cases hs : c = '['
    · subst hs
      have hplain : isParen '[' = false ∧ Text.isBlank '[' = false := by decide
      simp [staysOpen, Position.goesOn, Position.read, hb, hplain]
    · have hne : (c == '[') = false := beq_false_of_ne hs
      simp [staysOpen, Position.goesOn, Position.read, hb, hv, hs, hne]

/-- A value that stays open is read into the open word. -/
theorem scanFrom_value {rest : List Char} (hEnd : EndsWord rest) {value : List Char}
    {p : Position} (hv : p.inValue = true) (h : staysOpen p.inBracket value = true) :
    scanFrom p (value ++ rest) =
      scanFrom { p with word := value.reverse ++ p.word, inBracket := false } rest := by
  induction value generalizing p with
  | nil =>
    have hb : p.inBracket = false := by simpa [staysOpen] using h
    rw [List.nil_append, List.reverse_nil, List.nil_append, ← hb]
  | cons c value ih =>
    rw [staysOpen_cons hv, Bool.and_eq_true] at h
    have hread : (p.read c).inValue = true := by simp [Position.read, hv]
    have hgoes : p.goesOn c (value ++ rest) = true := by rw [goesOn_append p c hEnd, h.1]
    rw [List.cons_append, scanFrom_goesOn hgoes, ih hread h.2]
    simp [Position.read, hv]

/-! ## Words completed -/

/-- A scan completes the word that is open with a piece of the text, and goes on without a word
after it. -/
structure Completes (p : Position) (text : List Char) (tokens : List Token)
    (piece after : List Char) (others : List Token) : Prop where
  text_eq : text = piece ++ after
  tokens_eq : tokens = .word (p.word.reverse ++ piece) :: others
  others : scanFrom (.clear p.depth) after = .ok others
  /-- What follows begins with a character that belongs to no word, if with any. -/
  apart : ∀ c ∈ after.head?, (!Text.isBlank c && !isParen c) = false
  /-- The piece alone would have completed the word in the same way. -/
  alone : scanFrom { p with depth := 0 } piece = .ok [.word (p.word.reverse ++ piece)]
  /-- A value stays open to its end. -/
  value : p.inValue = true → staysOpen p.inBracket piece = true ∧ EndsWord after

/-- The word is complete as it is. -/
theorem Completes.here {p : Position} (hb : p.inBracket = false) (hw : p.word ≠ [])
    {after : List Char} {others : List Token} (h : scanFrom (.clear p.depth) after = .ok others)
    (hApart : ∀ c ∈ after.head?, (!Text.isBlank c && !isParen c) = false)
    (hEnd : p.inValue = true → EndsWord after) :
    Completes p after (p.flush ++ others) [] after others where
  text_eq := rfl
  tokens_eq := by simp [Position.flush_of_word hw]
  others := h
  apart := hApart
  alone := by simp [scanFrom, hb, Position.flush, hw]
  value hv := ⟨by simp [hb, staysOpen], hEnd hv⟩

theorem Completes.cons {p : Position} {c : Char} {text piece after : List Char}
    {tokens others : List Token} (hgoes : p.goesOn c text = true)
    (h : Completes (p.read c) text tokens piece after others) :
    Completes p (c :: text) tokens (c :: piece) after others := by
  have hword : (p.read c).word.reverse ++ piece = p.word.reverse ++ c :: piece := by
    simp [Position.read]
  -- whether the word goes on is decided by the piece, because what follows a value ends it
  have hpiece : p.goesOn c piece = true := by
    cases hv : p.inValue with
    | true =>
      have hread : (p.read c).inValue = true := by simp [Position.read, hv]
      rw [h.text_eq, goesOn_append p c (h.value hread).2] at hgoes
      exact hgoes
    | false => simpa [Position.goesOn, hv] using hgoes
  refine ⟨?_, ?_, h.others, h.apart, ?_, ?_⟩
  · rw [h.text_eq, List.cons_append]
  · rw [h.tokens_eq, hword]
  · rw [← hword, ← h.alone, scanFrom_goesOn (p := { p with depth := 0 }) hpiece]
    rfl
  · intro hv
    have hread : (p.read c).inValue = true := by simp [Position.read, hv]
    obtain ⟨hopen, hends⟩ := h.value hread
    refine ⟨?_, hends⟩
    rw [staysOpen_cons hv, hpiece, hopen]
    rfl

/-- Every word that is open is completed, when a scan succeeds. -/
theorem exists_completes {text : List Char} {p : Position} (hw : p.word ≠ []) {tokens : List Token}
    (h : scanFrom p text = .ok tokens) :
    ∃ piece after others, Completes p text tokens piece after others := by
  induction text generalizing p with
  | nil =>
    cases hb : p.inBracket with
    | true => simp [scanFrom, hb] at h
    | false =>
      rw [scanFrom_endsWord hb hw endsWord_nil] at h
      obtain ⟨others, hrest, rfl⟩ := exists_of_map_eq_ok h
      have hhere := Completes.here hb hw hrest endsWord_nil.head fun _ => endsWord_nil
      rw [Position.flush_of_word hw] at hhere
      exact ⟨[], [], others, hhere⟩
  | cons c text ih =>
    cases hgoes : p.goesOn c text with
    | true =>
      rw [scanFrom_goesOn hgoes] at h
      obtain ⟨piece, after, others, hcompletes⟩ := ih (by simp [Position.read]) h
      exact ⟨c :: piece, after, others, hcompletes.cons hgoes⟩
    | false =>
      rw [scanFrom_not_goesOn hgoes] at h
      obtain ⟨others, hrest, rfl⟩ := exists_of_map_eq_ok h
      obtain ⟨hb, hends⟩ := ends_of_not_goesOn hgoes
      have hapart : ∀ d ∈ (c :: text).head?, (!Text.isBlank d && !isParen d) = false := by
        rintro d hd
        obtain rfl : c = d := by simpa using hd
        rcases hends with rfl | rfl | ⟨hblank, -⟩
        · rfl
        · rfl
        · rw [hblank]
          rfl
      exact ⟨[], c :: text, others, .here hb hw hrest hapart (endsWord_of_not_goesOn hgoes)⟩

end PaperSearch.Token
