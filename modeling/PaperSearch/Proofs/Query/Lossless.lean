import PaperSearch.Proofs.Query.Parens
import PaperSearch.Proofs.Query.Words

/-!
# Nothing lost, nothing made up

The tokens of a text are all of it but blanks (`scan_lossless`). What is read of the text stands in
the open word until a token takes it over, so each fact about tokens is one about a scan from any
position, with the open word in front of the text.

* `Scans`: the scans that succeed, one constructor for each way in which a character is met.
* `Scans.solid_eq`: open word and text have the characters of the tokens, blanks apart.
* `Scans.parens_eq`: the parentheses outside brackets are tokens, in order.
* `Scans.last_of_mem`: no word ends in a blank. While a blank ends the open word, a value goes on
  (`Position.IsSteady`), and where a value goes on the word is not complete.
-/

namespace PaperSearch.Token

/-! ## Successful scans -/

/-- A scan from a position that finds these tokens. -/
inductive Scans : Position → List Char → List Token → Prop
  | done {p : Position} (hb : p.inBracket = false) (hd : p.depth = 0) : Scans p [] p.flush
  | goesOn {p : Position} {c : Char} {rest : List Char} {tokens : List Token}
      (hgoes : p.goesOn c rest = true) (h : Scans (p.read c) rest tokens) :
      Scans p (c :: rest) tokens
  | opening {p : Position} {rest : List Char} {tokens : List Token} (hb : p.inBracket = false)
      (h : Scans (.clear (p.depth + 1)) rest tokens) :
      Scans p ('(' :: rest) (p.flush ++ .opening :: tokens)
  | closing {p : Position} {rest : List Char} {tokens : List Token} (hb : p.inBracket = false)
      (hd : p.depth ≠ 0) (h : Scans (.clear (p.depth - 1)) rest tokens) :
      Scans p (')' :: rest) (p.flush ++ .closing :: tokens)
  | blank {p : Position} {c : Char} {rest : List Char} {tokens : List Token}
      (hb : p.inBracket = false) (hc : Text.isBlank c = true)
      (hends : p.inValue = true → endsValue rest = true) (h : Scans (.clear p.depth) rest tokens) :
      Scans p (c :: rest) (p.flush ++ tokens)

theorem scans_of_scanFrom {p : Position} {text : List Char} {tokens : List Token}
    (h : scanFrom p text = .ok tokens) : Scans p text tokens := by
  induction text generalizing p tokens with
  | nil =>
    rw [scanFrom] at h
    split at h
    · cases h
    · rename_i hb
      split at h
      · rename_i hd
        cases h
        exact .done (Bool.eq_false_iff.mpr hb) hd
      · cases h
  | cons c rest ih =>
    cases hgoes : p.goesOn c rest with
    | true =>
      rw [scanFrom_goesOn hgoes] at h
      exact .goesOn hgoes (ih h)
    | false =>
      obtain ⟨hb, rfl | rfl | ⟨hblank, hends⟩⟩ := ends_of_not_goesOn hgoes
      · rw [scanFrom_opening hb] at h
        obtain ⟨others, hothers, rfl⟩ := exists_of_map_eq_ok h
        exact .opening hb (ih hothers)
      · by_cases hd : p.depth = 0
        · simp [scanFrom, hb, hd] at h
        · rw [scanFrom_closing hb hd] at h
          obtain ⟨others, hothers, rfl⟩ := exists_of_map_eq_ok h
          exact .closing hb hd (ih hothers)
      · rw [scanFrom_blank hb hblank hends] at h
        obtain ⟨others, hothers, rfl⟩ := exists_of_map_eq_ok h
        exact .blank hb hblank hends (ih hothers)

section Scans

variable {p : Position} {text : List Char} {tokens : List Token}

/-! ## Characters -/

/-- A text without its blanks. -/
def solid (s : List Char) : List Char :=
  s.filter fun c => !Text.isBlank c

theorem solid_append (s t : List Char) : solid (s ++ t) = solid s ++ solid t :=
  List.filter_append s t

theorem solid_blank {c : Char} (hc : Text.isBlank c = true) (s : List Char) :
    solid (c :: s) = solid s :=
  List.filter_cons_of_neg (by simp [hc])

theorem flatMap_text_flush (p : Position) : p.flush.flatMap Token.text = p.word.reverse := by
  unfold Position.flush
  split
  · rename_i hempty
    rw [List.isEmpty_iff.mp hempty]
    rfl
  · exact List.flatMap_singleton Token.text _

/-- Where the open word is taken over, what comes behind it is settled without it. -/
theorem solid_flush_append (p : Position) {rest : List Char}
    (h : solid (tokens.flatMap Token.text) = solid rest) :
    solid ((p.flush ++ tokens).flatMap Token.text) = solid (p.word.reverse ++ rest) := by
  rw [List.flatMap_append, flatMap_text_flush, solid_append, solid_append, h]

/-- The tokens have the characters of the open word and of the text, blanks apart. -/
theorem Scans.solid_eq (h : Scans p text tokens) :
    solid (tokens.flatMap Token.text) = solid (p.word.reverse ++ text) := by
  induction h with
  | done _ _ => rw [flatMap_text_flush, List.append_nil]
  | @goesOn p c rest _ _ _ ih =>
    have hword : (p.read c).word.reverse ++ rest = p.word.reverse ++ c :: rest := by
      simp [Position.read]
    rw [ih, hword]
  | @opening p _ _ _ _ ih => exact solid_flush_append p (congrArg ('(' :: ·) ih)
  | @closing p _ _ _ _ _ ih => exact solid_flush_append p (congrArg (')' :: ·) ih)
  | @blank p _ rest _ _ hc _ _ ih => exact solid_flush_append p (ih.trans (solid_blank hc rest).symm)

/-! ## Parentheses -/

/-- The parenthesis that a token is. A word is none. -/
def paren : Token → List Char
  | word _ => []
  | opening => ['(']
  | closing => [')']

theorem flatMap_paren_flush (p : Position) : p.flush.flatMap paren = [] := by
  unfold Position.flush
  split <;> rfl

/-- The parentheses outside brackets, one character further on. -/
theorem parens_cons (inside : Bool) (c : Char) (rest : List Char) :
    (outside inside (c :: rest)).filter isParen =
      (if !inside && isParen c then [c] else []) ++
        (outside (if inside then c != ']' else c == '[') rest).filter isParen := by
  rw [outside_cons, List.filter_append]
  congr 1
  cases inside with
  | true => rfl
  | false =>
    by_cases hc : c = '['
    · subst hc
      rfl
    · cases hparen : isParen c <;> simp [hc, hparen]

/-- Every parenthesis outside brackets is a token, and every token that is one stands outside. -/
theorem Scans.parens_eq (h : Scans p text tokens) :
    (outside p.inBracket text).filter isParen = tokens.flatMap paren := by
  induction h with
  | @done p _ _ =>
    rw [flatMap_paren_flush]
    cases p.inBracket <;> rfl
  | @goesOn p c rest _ hgoes _ ih =>
    have hnone : (!p.inBracket && isParen c) = false := by
      cases hb : p.inBracket with
      | true => rfl
      | false =>
        simp only [Position.goesOn, hb, Bool.false_or, Bool.and_eq_true, Bool.not_eq_true'] at hgoes
        simp [hgoes.1]
    rw [parens_cons, hnone, ← ih]
    rfl
  | opening hb _ ih =>
    rw [List.flatMap_append, flatMap_paren_flush, hb, parens_cons]
    exact congrArg ('(' :: ·) ih
  | closing hb _ _ ih =>
    rw [List.flatMap_append, flatMap_paren_flush, hb, parens_cons]
    exact congrArg (')' :: ·) ih
  | @blank p c rest _ hb hc _ _ ih =>
    obtain ⟨hopening, hclosing, hbracket, -⟩ := ne_of_isBlank hc
    have hnone : (!false && isParen c) = false := by simp [isParen, hopening, hclosing]
    rw [List.flatMap_append, flatMap_paren_flush, hb, parens_cons, hnone, ← ih,
      beq_false_of_ne hbracket]
    rfl

/-! ## Ends of words -/

/-- Where a word ends, a value does not go on. -/
theorem EndsWord.endsValue {s : List Char} (h : EndsWord s) : endsValue s = true := by
  have happend := endsValue_append (s := []) h
  rw [List.nil_append] at happend
  exact happend

/-- The open word does not end in a blank, unless it is a value that goes on. -/
def Position.IsSteady (p : Position) (text : List Char) : Prop :=
  p.inBracket = false → ∀ c ∈ p.word.head?, Text.isBlank c = true →
    p.inValue = true ∧ endsValue text = false

theorem isSteady_clear (depth : Nat) (text : List Char) : (Position.clear depth).IsSteady text := by
  intro _ c hc
  cases hc

/-- A blank with which the word goes on is part of a value, or of a bracket that is still open. -/
theorem isSteady_read {c : Char} {rest : List Char} (h : p.goesOn c rest = true) :
    (p.read c).IsSteady rest := by
  intro hb d hd hblank
  obtain rfl : c = d := Option.some.inj hd
  cases hinside : p.inBracket with
  | true =>
    have hclose : c = ']' := by simpa [Position.read, hinside] using hb
    rw [hclose] at hblank
    exact absurd hblank (by decide)
  | false =>
    simp only [Position.goesOn, hinside, hblank, Bool.false_or, Bool.true_and, Bool.and_eq_true,
      Bool.not_eq_true', Bool.or_eq_false_iff, Bool.not_eq_false'] at h
    exact ⟨by simp [Position.read, h.2.1], h.2.2⟩

/-- A word that is complete does not end in a blank. -/
theorem Position.IsSteady.last_of_mem_flush (hp : p.IsSteady text) (hb : p.inBracket = false)
    (hends : p.inValue = true → EndsWord text) {w : List Char} (hw : .word w ∈ p.flush) :
    ∀ c ∈ w.getLast?, Text.isBlank c = false := by
  intro c hc
  unfold Position.flush at hw
  split at hw
  · cases hw
  · obtain rfl : w = p.word.reverse := by simpa using hw
    rw [List.getLast?_reverse] at hc
    refine Bool.eq_false_iff.mpr fun hblank => ?_
    obtain ⟨hv, hon⟩ := hp hb c hc hblank
    rw [(hends hv).endsValue] at hon
    cases hon

/-- No word ends in a blank. -/
theorem Scans.last_of_mem (h : Scans p text tokens) (hp : p.IsSteady text) {w : List Char}
    (hw : .word w ∈ tokens) : ∀ c ∈ w.getLast?, Text.isBlank c = false := by
  induction h with
  | done hb _ => exact hp.last_of_mem_flush hb (fun _ => endsWord_nil) hw
  | goesOn hgoes _ ih => exact ih (isSteady_read hgoes) hw
  | opening hb _ ih | closing hb _ _ ih =>
    rcases List.mem_append.mp hw with hw | hw
    · exact hp.last_of_mem_flush hb (fun _ => Or.inl rfl) hw
    · exact ih (isSteady_clear _ _) ((List.mem_cons.mp hw).resolve_left (by simp))
  | blank hb hc hends _ ih =>
    rcases List.mem_append.mp hw with hw | hw
    · exact hp.last_of_mem_flush hb (fun hv => Or.inr ⟨hc, hends hv⟩) hw
    · exact ih (isSteady_clear _ _) hw

end Scans

/-! ## Whole texts -/

/-- **Nothing is lost and nothing is made up.** The tokens of a text have its characters, in order
and blanks apart. Its parentheses outside brackets are the tokens that are parentheses, and these
close what they open. A word is not empty, does not end in a blank or in an open bracket, has no
parenthesis outside brackets, and is the one token of itself as a text. -/
theorem scan_lossless {text : List Char} {tokens : List Token} (h : scan text = .ok tokens) :
    solid (tokens.flatMap Token.text) = solid text ∧
    (outside false text).filter isParen = tokens.flatMap paren ∧ Closes 0 tokens ∧
    ∀ w, .word w ∈ tokens → w ≠ [] ∧ (∀ c ∈ w.getLast?, Text.isBlank c = false) ∧
      endsInside false w = false ∧ (∀ c ∈ outside false w, isParen c = false) ∧
      scan w = .ok [.word w] := by
  have hscans : Scans .start text tokens := scans_of_scanFrom h
  refine ⟨hscans.solid_eq, hscans.parens_eq, closes_of_scan h, fun w hw => ?_⟩
  have halone : scan w = .ok [.word w] := ((divided_of_scan h).of_mem hw).2
  have hword : Scans .start w [.word w] := scans_of_scanFrom halone
  refine ⟨?_, hscans.last_of_mem (isSteady_clear 0 text) hw, endsInside_of_scan halone, ?_, halone⟩
  · rintro rfl
    cases halone
  · exact fun c hc => Bool.eq_false_iff.mpr fun hparen =>
      List.filter_eq_nil_iff.mp hword.parens_eq c hc hparen

/-- Blanks of several kinds, a value that goes on behind them, a bracket with a parenthesis and a
blank at its end, groups beside words, and a word in no field. -/
theorem scan_lossless_mixed :
    let text := "\tti:a\u2003 b[( ]c(au:x [) ])d \n".toList
    let tokens := [.word "ti:a\u2003 b[( ]c".toList, .opening, .word "au:x [) ]".toList, .closing,
      .word "d".toList]
    scan text = .ok tokens ∧ solid (tokens.flatMap Token.text) = solid text ∧
      (outside false text).filter isParen = "()".toList ∧
      scan "au:x [) ]".toList = .ok [.word "au:x [) ]".toList] := by
  intro text tokens
  have hscan : scan text = .ok tokens := rfl
  obtain ⟨hsolid, hparens, -, hwords⟩ := scan_lossless hscan
  obtain ⟨-, -, -, -, halone⟩ := hwords "au:x [) ]".toList (by decide)
  exact ⟨hscan, hsolid, hparens, halone⟩

end PaperSearch.Token
