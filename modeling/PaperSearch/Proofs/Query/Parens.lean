import PaperSearch.Proofs.Query.Scan

/-!
# Parentheses of a text

Whether a scan succeeds depends on the characters outside brackets alone. The first of three
faults counts: a closing parenthesis without an open one, a bracket that is open at the end, an
opening parenthesis that is never closed. Without them the tokens are balanced.

* `outside`, `endsInside`: the characters outside brackets, and whether a bracket stays open.
* `Stray`: some closing parenthesis closes nothing.
* `Closes`: the tokens close what is open before them, and all that they open.
* `scanned_scanFrom` says which fault a scan finds, or how its tokens close.
-/

namespace PaperSearch.Token

/-- The characters of a text that are outside brackets, given whether a bracket is open before it.
A bracket that is opened runs to the next `]`. -/
def outside : Bool → List Char → List Char
  | _, [] => []
  | true, c :: rest => outside (c != ']') rest
  | false, c :: rest => if c = '[' then outside true rest else c :: outside false rest

/-- Is a bracket open at the end of a text, given whether one is open before it? -/
def endsInside : Bool → List Char → Bool
  | inside, [] => inside
  | true, c :: rest => endsInside (c != ']') rest
  | false, c :: rest => endsInside (c == '[') rest

/-- Some `)` comes when nothing is open any more, given how many parentheses are open before the
text. -/
def Stray (depth : Nat) (text : List Char) : Prop :=
  ∃ before after, text = before ++ ')' :: after ∧
    depth + before.count '(' ≤ before.count ')'

/-- The tokens close so many groups that are open before them, and every group of their own. -/
inductive Closes : Nat → List Token → Prop
  | nil : Closes 0 []
  | word {depth : Nat} {tokens : List Token} (w : List Char) (h : Closes depth tokens) :
      Closes depth (.word w :: tokens)
  | opening {depth : Nat} {tokens : List Token} (h : Closes (depth + 1) tokens) :
      Closes depth (.opening :: tokens)
  | closing {depth : Nat} {tokens : List Token} (h : Closes depth tokens) :
      Closes (depth + 1) (.closing :: tokens)

section Closes

variable {depth : Nat} {tokens : List Token}

@[simp] theorem closes_nil : Closes depth [] ↔ depth = 0 :=
  ⟨fun h => by cases h; rfl, fun h => h ▸ .nil⟩

@[simp] theorem closes_word {w : List Char} :
    Closes depth (.word w :: tokens) ↔ Closes depth tokens :=
  ⟨fun h => by cases h; assumption, .word w⟩

@[simp] theorem closes_opening : Closes depth (.opening :: tokens) ↔ Closes (depth + 1) tokens :=
  ⟨fun h => by cases h; assumption, .opening⟩

@[simp] theorem closes_closing_zero : ¬ Closes 0 (.closing :: tokens) :=
  nofun

@[simp] theorem closes_closing : Closes (depth + 1) (.closing :: tokens) ↔ Closes depth tokens :=
  ⟨fun h => by cases h; assumption, .closing⟩

end Closes

/-! ## Counting parentheses -/

theorem not_stray_nil (depth : Nat) : ¬ Stray depth [] := by
  rintro ⟨before, after, htext, -⟩
  simp at htext

theorem stray_closing_zero (text : List Char) : Stray 0 (')' :: text) :=
  ⟨[], text, rfl, Nat.le_refl 0⟩

theorem count_cons_eq (c d : Char) (text : List Char) :
    (c :: text).count d = [c].count d + text.count d := by
  rw [← List.count_append, List.singleton_append]

theorem count_of_not_isParen {c : Char} (h : isParen c = false) :
    [c].count '(' = 0 ∧ [c].count ')' = 0 := by
  simp only [isParen, Bool.or_eq_false_iff, beq_eq_false_iff_ne] at h
  exact ⟨List.count_singleton.trans (by simp [h.1]), List.count_singleton.trans (by simp [h.2])⟩

/-- A character that may stand where it does changes the depth alone. -/
theorem stray_cons {depth depth' : Nat} {c : Char} {text : List Char} (hc : c = ')' → depth ≠ 0)
    (hDepth : depth' + [c].count ')' = depth + [c].count '(') :
    Stray depth (c :: text) ↔ Stray depth' text := by
  constructor
  · rintro ⟨before, after, htext, hcount⟩
    cases before with
    | nil =>
      have hzero : depth ≤ 0 := hcount
      exact absurd (Nat.le_zero.mp hzero) (hc (List.cons.inj htext).1)
    | cons d before =>
      obtain ⟨rfl, rfl⟩ := List.cons.inj htext
      refine ⟨before, after, rfl, ?_⟩
      rw [count_cons_eq c '(' before, count_cons_eq c ')' before] at hcount
      omega
  · rintro ⟨before, after, rfl, hcount⟩
    refine ⟨c :: before, after, rfl, ?_⟩
    rw [count_cons_eq c '(' before, count_cons_eq c ')' before]
    omega

/-! ## What a scan finds -/

/-- What a scan gives of a text, by its characters outside brackets: `depth` parentheses are open
before it, `inside` tells whether a bracket is open after it, and an error shows a part at the end
of `whole`. -/
inductive Scanned (depth : Nat) (text : List Char) (inside : Bool) (whole : List Char) :
    Except ParseError (List Token) → Prop
  | stray (hStray : Stray depth text) : Scanned depth text inside whole (.error .unbalancedParens)
  | unterminated {word : List Char} (hStray : ¬ Stray depth text) (hInside : inside = true)
      (hWord : word <:+ whole) :
      Scanned depth text inside whole (.error (.unterminatedBracket (String.ofList word)))
  | unclosed (hStray : ¬ Stray depth text) (hInside : inside = false)
      (hCount : text.count ')' < depth + text.count '(') :
      Scanned depth text inside whole (.error .unbalancedParens)
  | tokens {tokens : List Token} (hStray : ¬ Stray depth text) (hInside : inside = false)
      (hCount : text.count ')' = depth + text.count '(') (hCloses : Closes depth tokens) :
      Scanned depth text inside whole (.ok tokens)

theorem Closes.flush {depth : Nat} {tokens : List Token} (p : Position) (h : Closes depth tokens) :
    Closes depth (p.flush ++ tokens) := by
  unfold Position.flush
  split
  · exact h
  · exact h.word _

/-- One more character before a text, with what it does to depth and tokens. -/
theorem Scanned.cons {depth depth' : Nat} {c : Char} {text whole whole' : List Char} {inside : Bool}
    {x : Except ParseError (List Token)} (h : Scanned depth' text inside whole' x)
    (hc : c = ')' → depth ≠ 0) (hDepth : depth' + [c].count ')' = depth + [c].count '(')
    (hWhole : whole' <:+ whole) {f : List Token → List Token}
    (hf : ∀ tokens, Closes depth' tokens → Closes depth (f tokens)) :
    Scanned depth (c :: text) inside whole (x.map f) := by
  have hStray : Stray depth (c :: text) ↔ Stray depth' text := stray_cons hc hDepth
  have hOpening := count_cons_eq c '(' text
  have hClosing := count_cons_eq c ')' text
  cases h with
  | stray h => exact .stray (hStray.mpr h)
  | unterminated h hInside hWord =>
    exact .unterminated (fun h' => h (hStray.mp h')) hInside (hWord.trans hWhole)
  | unclosed h hInside hLess => exact .unclosed (fun h' => h (hStray.mp h')) hInside (by omega)
  | tokens h hInside hEqual hCloses =>
    exact .tokens (fun h' => h (hStray.mp h')) hInside (by omega) (hf _ hCloses)

/-- A character that is no parenthesis changes no depth. -/
theorem Scanned.other {depth : Nat} {c : Char} {text whole whole' : List Char} {inside : Bool}
    {x : Except ParseError (List Token)} (h : Scanned depth text inside whole' x)
    (hc : isParen c = false) (hWhole : whole' <:+ whole) {f : List Token → List Token}
    (hf : ∀ tokens, Closes depth tokens → Closes depth (f tokens)) :
    Scanned depth (c :: text) inside whole (x.map f) := by
  obtain ⟨hOpening, hClosing⟩ := count_of_not_isParen hc
  have hne : c ≠ ')' := by
    rintro rfl
    cases hc
  exact h.cons (fun heq => absurd heq hne) (by rw [hOpening, hClosing]) hWhole hf

theorem outside_cons (inside : Bool) (c : Char) (rest : List Char) :
    outside inside (c :: rest) =
      (if inside || c == '[' then [] else [c]) ++
        outside (if inside then c != ']' else c == '[') rest := by
  cases inside with
  | true => rfl
  | false =>
    by_cases hc : c = '['
    · subst hc
      rfl
    · simp [outside, hc, beq_false_of_ne hc]

theorem endsInside_cons (inside : Bool) (c : Char) (rest : List Char) :
    endsInside inside (c :: rest) =
      endsInside (if inside then c != ']' else c == '[') rest := by
  cases inside <;> rfl

/-- A scan from any position. -/
theorem scanned_scanFrom (p : Position) (text : List Char) :
    Scanned p.depth (outside p.inBracket text) (endsInside p.inBracket text)
      (p.word.reverse ++ text) (scanFrom p text) := by
  induction text generalizing p with
  | nil =>
    have hStray := not_stray_nil p.depth
    rw [outside, endsInside, scanFrom]
    split
    · rename_i hb
      exact .unterminated hStray hb (by simp)
    · rename_i hb
      have hInside : p.inBracket = false := Bool.eq_false_iff.mpr hb
      split
      · rename_i hd
        have hflush : Closes 0 (p.flush ++ []) := Closes.nil.flush p
        rw [List.append_nil] at hflush
        exact .tokens hStray hInside (by simp [hd]) (hd ▸ hflush)
      · rename_i hd
        exact .unclosed hStray hInside (by simp; omega)
  | cons c rest ih =>
    cases hgoes : p.goesOn c rest with
    | true =>
      have hread := ih (p.read c)
      have hwhole : (p.read c).word.reverse ++ rest = p.word.reverse ++ c :: rest := by
        simp [Position.read]
      rw [scanFrom_goesOn hgoes, outside_cons, endsInside_cons]
      rw [hwhole] at hread
      split
      · exact hread
      · rename_i hplain
        simp only [Bool.or_eq_true, not_or, Bool.not_eq_true] at hplain
        have hparen : isParen c = false := by
          simp only [Position.goesOn, hplain.1, Bool.false_or, Bool.and_eq_true,
            Bool.not_eq_true'] at hgoes
          exact hgoes.1
        have hsame : (scanFrom (p.read c) rest).map id = scanFrom (p.read c) rest :=
          congrFun Except.map_id _
        rw [← hsame]
        exact hread.other hparen List.suffix_rfl fun _ h => h
    | false =>
      have hsuffix : rest <:+ p.word.reverse ++ c :: rest :=
        (List.suffix_cons c rest).trans (List.suffix_append _ _)
      obtain ⟨hb, rfl | rfl | ⟨hblank, hlook⟩⟩ := ends_of_not_goesOn hgoes
      · have hrest := ih (.clear (p.depth + 1))
        rw [scanFrom_opening hb, hb]
        exact hrest.cons (fun h => absurd h (by decide)) rfl hsuffix fun _ h => h.opening.flush p
      · by_cases hd : p.depth = 0
        · have hfails : scanFrom p (')' :: rest) = .error .unbalancedParens := by
            simp [scanFrom, hb, hd]
          rw [hfails, hd, hb]
          exact .stray (stray_closing_zero _)
        · have hrest := ih (.clear (p.depth - 1))
          have hpred : p.depth - 1 + 1 = p.depth := Nat.sub_add_cancel (Nat.pos_of_ne_zero hd)
          rw [scanFrom_closing hb hd, hb]
          refine hrest.cons (c := ')') (fun _ => hd) hpred hsuffix fun _ h => ?_
          rw [← hpred]
          exact h.closing.flush p
      · have hrest := ih (.clear p.depth)
        obtain ⟨hopen, hclose, hbracket, -⟩ := ne_of_isBlank hblank
        rw [scanFrom_blank hb hblank hlook, hb, outside_cons, endsInside_cons]
        simp only [Bool.false_or, beq_false_of_ne hbracket, Bool.false_eq_true, if_false]
        exact hrest.other (by simp [isParen, hopen, hclose]) hsuffix fun _ h => h.flush p

/-- What a scan of a whole text finds. -/
theorem scanned_scan (text : List Char) :
    Scanned 0 (outside false text) (endsInside false text) text (scan text) :=
  scanned_scanFrom .start text

/-- The tokens of a text close what they open, and nothing else. -/
theorem closes_of_scan {text : List Char} {tokens : List Token} (h : scan text = .ok tokens) :
    Closes 0 tokens := by
  have hscanned := scanned_scan text
  rw [h] at hscanned
  cases hscanned with
  | tokens _ _ _ hCloses => exact hCloses

/-- No bracket is open at the end of a text that has tokens. -/
theorem endsInside_of_scan {text : List Char} {tokens : List Token} (h : scan text = .ok tokens) :
    endsInside false text = false := by
  have hscanned := scanned_scan text
  rw [h] at hscanned
  cases hscanned with
  | tokens _ hInside _ _ => exact hInside

end PaperSearch.Token
