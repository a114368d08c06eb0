import PaperSearch.Proofs.Query.Scan

/-!
# Words of a text

A scan divides a text into words, parentheses and blanks between them. No word depends on where it
stands: a scan of the word alone gives it back.

* `Divided` says of what a text with some tokens is made up.
* `divided_of_scan`: a scan finds such tokens.
-/

namespace PaperSearch.Token

/-- The text is made up of the tokens, in order, with any blanks between them. Every word is one in
a text of its own, and what follows it does not begin another. -/
inductive Divided : List Char → List Token → Prop
  | nil : Divided [] []
  | blank {c : Char} {text : List Char} {tokens : List Token} (hc : Text.isBlank c = true)
      (h : Divided text tokens) : Divided (c :: text) tokens
  | opening {text : List Char} {tokens : List Token} (h : Divided text tokens) :
      Divided ('(' :: text) (.opening :: tokens)
  | closing {text : List Char} {tokens : List Token} (h : Divided text tokens) :
      Divided (')' :: text) (.closing :: tokens)
  | word {w text : List Char} {tokens : List Token} (alone : scan w = .ok [.word w])
      (apart : ∀ c ∈ text.head?, (!Text.isBlank c && !isParen c) = false)
      (h : Divided text tokens) : Divided (w ++ text) (.word w :: tokens)

/-- Without an open word, it is the first character alone that decides whether a word begins. -/
theorem goesOn_clear (depth : Nat) (c : Char) (rest rest' : List Char) :
    (Position.clear depth).goesOn c rest = (Position.clear depth).goesOn c rest' := by
  simp [Position.goesOn]

/-- A scan without an open word divides the text. -/
theorem divided_of_scanFrom (depth : Nat) (text : List Char) {tokens : List Token}
    (h : scanFrom (.clear depth) text = .ok tokens) : Divided text tokens := by
  match text with
  | [] =>
    have htokens : tokens = [] := by
      by_cases hd : depth = 0
      · simpa [scanFrom, hd] using h.symm
      · simp [scanFrom, hd] at h
    exact htokens ▸ .nil
  | c :: rest =>
    have hb := Position.clear_inBracket depth
    cases hgoes : (Position.clear depth).goesOn c rest with
    | true =>
      rw [scanFrom_goesOn hgoes] at h
      obtain ⟨piece, after, others, hword⟩ := exists_completes (by simp [Position.read]) h
      have hshorter : after.length < (c :: rest).length := by
        rw [hword.text_eq, List.length_cons, List.length_append]
        omega
      have halone : scan (c :: piece) = .ok [.word (c :: piece)] := by
        rw [goesOn_clear depth c rest piece] at hgoes
        exact (scanFrom_goesOn (p := .start) hgoes).trans hword.alone
      have hrest := divided_of_scanFrom depth after hword.others
      rw [hword.tokens_eq, hword.text_eq]
      exact .word halone hword.apart hrest
    | false =>
      obtain ⟨-, rfl | rfl | ⟨hblank, -⟩⟩ := ends_of_not_goesOn hgoes
      · rw [scanFrom_opening hb] at h
        obtain ⟨others, hothers, rfl⟩ := exists_of_map_eq_ok h
        exact .opening (divided_of_scanFrom _ rest hothers)
      · by_cases hd : depth = 0
        · simp [scanFrom, hd] at h
        · rw [scanFrom_closing hb hd] at h
          obtain ⟨others, hothers, rfl⟩ := exists_of_map_eq_ok h
          exact .closing (divided_of_scanFrom _ rest hothers)
      · rw [scanFrom_blank hb hblank (by simp)] at h
        obtain ⟨others, hothers, rfl⟩ := exists_of_map_eq_ok h
        exact .blank hblank (divided_of_scanFrom _ rest hothers)
termination_by text.length
decreasing_by
  · exact Nat.lt_succ_self rest.length
  · exact Nat.lt_succ_self rest.length
  · exact Nat.lt_succ_self rest.length
  · exact hshorter

theorem divided_of_scan {text : List Char} {tokens : List Token} (h : scan text = .ok tokens) :
    Divided text tokens :=
  divided_of_scanFrom 0 text h

/-- A word of the text is a connected piece of it, and a word alone. -/
theorem Divided.of_mem {text w : List Char} {tokens : List Token} (h : Divided text tokens)
    (hw : .word w ∈ tokens) : w <:+: text ∧ scan w = .ok [.word w] := by
  induction h with
  | nil => cases hw
  | blank hc h ih => exact ⟨List.infix_cons (ih hw).1, (ih hw).2⟩
  | opening h ih | closing h ih =>
    rcases List.mem_cons.mp hw with heq | hmem
    · cases heq
    · exact ⟨List.infix_cons (ih hmem).1, (ih hmem).2⟩
  | @word v text tokens alone apart h ih =>
    rcases List.mem_cons.mp hw with heq | hmem
    · obtain rfl : w = v := by simpa using heq
      exact ⟨(List.prefix_append w text).isInfix, alone⟩
    · exact ⟨(ih hmem).1.trans (List.suffix_append v text).isInfix, (ih hmem).2⟩

end PaperSearch.Token
