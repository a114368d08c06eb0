import PaperSearch.Proofs.Query.Saying

/-!
# Texts joined

A text that is read as a query may be followed by an operator and by another such text in
parentheses. Nothing in either part changes how the other is read: the answer is the first query,
the operator and the second query as a group (`parse_joined`).

A scan that succeeds leaves no word, bracket or parenthesis open, so it goes on behind its text as
a scan of what follows does, at whatever depth the text stands (`scanFrom_append`); and the tokens
that it leaves are read in the same way before others, within any groups (`addTokens_append`).
-/

namespace PaperSearch

open Token

/-! ## Scans -/

namespace Token

/-- The position with so many more parentheses open around it. -/
def Position.within (p : Position) (around : Nat) : Position :=
  { p with depth := p.depth + around }

@[simp] theorem Position.within_depth (p : Position) (around : Nat) :
    (p.within around).depth = p.depth + around := rfl

theorem Position.clear_within (depth around : Nat) :
    (clear depth).within around = clear (depth + around) := rfl

/-- A text that is scanned well gives the same tokens in front of a text that ends words, with more
parentheses open around it. -/
theorem scanFrom_append {p : Position} {text rest : List Char} {tokens : List Token}
    (hEnd : EndsWord rest) (around : Nat) (h : scanFrom p text = .ok tokens) :
    scanFrom (p.within around) (text ++ rest) =
      (scanFrom (.clear around) rest).map fun ts => tokens ++ ts := by
  induction text generalizing p tokens with
  | nil =>
    rw [scanFrom] at h
    split at h
    · cases h
    · rename_i hb
      split at h
      · rename_i hd
        cases h
        have hb' : (p.within around).inBracket = false := Bool.eq_false_iff.mpr hb
        rw [List.nil_append, scanFrom_flush hb' hEnd, Position.within_depth, hd, Nat.zero_add]
        rfl
      · cases h
  | cons c text ih =>
    rw [List.cons_append]
    cases hc : p.goesOn c text with
    | true =>
      have hgoes : (p.within around).goesOn c (text ++ rest) = true :=
        (goesOn_append p c hEnd).trans hc
      rw [scanFrom_goesOn hc] at h
      rw [scanFrom_goesOn hgoes]
      exact ih h
    | false =>
      obtain ⟨hb, rfl | rfl | ⟨hblank, hlook⟩⟩ := ends_of_not_goesOn hc
      · rw [scanFrom_opening hb] at h
        obtain ⟨others, hothers, rfl⟩ := exists_of_map_eq_ok h
        have hrest := ih hothers
        rw [Position.clear_within, Nat.add_right_comm] at hrest
        rw [scanFrom_opening (p := p.within around) hb, Position.within_depth, hrest, map_map]
        simp [Position.flush, Position.within]
      · by_cases hd : p.depth = 0
        · simp [scanFrom, hb, hd] at h
        · rw [scanFrom_closing hb hd] at h
          obtain ⟨others, hothers, rfl⟩ := exists_of_map_eq_ok h
          have hrest := ih hothers
          have hd' : (p.within around).depth ≠ 0 := by rw [Position.within_depth]; omega
          have hpred : p.depth - 1 + around = p.depth + around - 1 := by omega
          rw [Position.clear_within, hpred] at hrest
          rw [scanFrom_closing (p := p.within around) hb hd', Position.within_depth, hrest,
            map_map]
          simp [Position.flush, Position.within]
      · rw [scanFrom_blank hb hblank hlook] at h
        obtain ⟨others, hothers, rfl⟩ := exists_of_map_eq_ok h
        have hrest := ih hothers
        have hlook' : (p.within around).inValue = true → endsValue (text ++ rest) = true :=
          fun hv => (endsValue_append hEnd).trans (hlook hv)
        rw [Position.clear_within] at hrest
        rw [scanFrom_blank (p := p.within around) hb hblank hlook', Position.within_depth, hrest,
          map_map]
        simp [Position.flush, Position.within]

/-- The same for whole texts. -/
theorem scanFrom_clear_append {text rest : List Char} {tokens : List Token} (hEnd : EndsWord rest)
    (around : Nat) (h : scan text = .ok tokens) :
    scanFrom (.clear around) (text ++ rest) =
      (scanFrom (.clear around) rest).map fun ts => tokens ++ ts := by
  have hscan := scanFrom_append hEnd around h
  rwa [show Position.start.within around = .clear around from congrArg _ (Nat.zero_add around)]
    at hscan

end Token

namespace Query

/-! ## Tokens -/

/-- Tokens that are read as a query are read in the same way before others, within any groups. -/
theorem addTokens_append {outer : List Query} {q r : Query} {tokens : List Token}
    (more : List Query) (rest : List Token) (h : addTokens outer q tokens = .ok r) :
    addTokens (outer ++ more) q (tokens ++ rest) = addTokens more r rest := by
  induction tokens generalizing outer q with
  | nil =>
    cases outer with
    | nil =>
      cases h
      rfl
    | cons around outer => cases h
  | cons token tokens ih =>
    cases token with
    | opening => exact ih h
    | closing =>
      cases outer with
      | nil => cases h
      | cons around outer => exact ih h
    | word w =>
      rw [addTokens] at h
      rw [List.cons_append, addTokens]
      split at h
      · rename_i next hword
        exact ih h
      · cases h

theorem exists_tokens_of_parse {s : String} {q : Query} (h : parse s = .ok q) :
    ∃ tokens, scan s.toList = .ok tokens ∧ addTokens [] .empty tokens = .ok q := by
  rw [parse] at h
  split at h
  · rename_i tokens hscan
    exact ⟨tokens, hscan, h⟩
  · cases h

/-! ## Whole texts -/

/-- The text of a filter around another text: an operator and a text in parentheses. -/
theorem scan_joined {a b : List Char} {as bs : List Token} (op : Operator) (ha : scan a = .ok as)
    (hb : scan b = .ok bs) :
    scan (a ++ ' ' :: (op.keyword ++ ' ' :: '(' :: (b ++ [')']))) =
      .ok (as ++ .word op.keyword :: .opening :: (bs ++ [.closing])) := by
  have hparen : EndsWord (' ' :: '(' :: (b ++ [')'])) := endsWord_space rfl
  have hkeyword : EndsWord (' ' :: (op.keyword ++ ' ' :: '(' :: (b ++ [')']))) :=
    endsWord_space ((Node.operator op).endsValue_wire hparen)
  have hinner := scanFrom_clear_append (endsWord_closing []) 1 hb
  rw [scanFrom_closing (Position.clear_inBracket 1) Nat.one_ne_zero] at hinner
  show scanFrom (.clear 0) _ = _
  rw [scanFrom_clear_append hkeyword 0 ha, scanFrom_clear_space,
    scanFrom_word op.isPlain_keyword op.keyword_ne_nil hparen, scanFrom_clear_space,
    scanFrom_opening (Position.clear_inBracket 0), Position.clear_depth, hinner]
  rfl

/-- **Texts combine as queries.** -/
theorem parse_joined {a b : String} {p q : Query} (op : Operator) (ha : parse a = .ok p)
    (hb : parse b = .ok q) :
    parse (a ++ " " ++ String.ofList op.keyword ++ " (" ++ b ++ ")") =
      .ok ⟨p.nodes ++ (if p.isEmpty then [] else [.operator op]) ++
        (if q.isEmpty then [] else [.group q.nodes])⟩ := by
  obtain ⟨as, hscanA, htokensA⟩ := exists_tokens_of_parse ha
  obtain ⟨bs, hscanB, htokensB⟩ := exists_tokens_of_parse hb
  have htext : (a ++ " " ++ String.ofList op.keyword ++ " (" ++ b ++ ")").toList =
      a.toList ++ ' ' :: (op.keyword ++ ' ' :: '(' :: (b.toList ++ [')'])) := by
    simp
  rw [parse, htext, scan_joined op hscanA hscanB]
  show addTokens [] .empty _ = _
  have hfirst := addTokens_append [] (.word op.keyword :: .opening :: (bs ++ [.closing])) htokensA
  have hsecond := addTokens_append [p.operator op] [.closing] htokensB
  rw [List.nil_append] at hfirst hsecond
  rw [hfirst, addTokens, addWord_operator]
  show addTokens [p.operator op] .empty (bs ++ [.closing]) = _
  rw [hsecond]
  show Except.ok ((p.operator op).group q) = _
  unfold operator group push
  split <;> split <;> simp [*]

/-- An operator and a space at the end of the first text; brackets around a parenthesis, an escaped
parenthesis and operators at both ends of the second. -/
theorem parse_joined_dangling :
    let a := "ti:graphs OR (au:x) and "
    let b := "or all:[)] c%29 AND"
    let p := ((((Query.empty.term .title "graphs").operator .or).group
      (Query.empty.term .author "x"))).operator .and
    let q := (Query.empty.term .all "[)] c)").operator .and
    parse a = .ok p ∧ parse b = .ok q ∧
      parse "ti:graphs OR (au:x) and  ANDNOT (or all:[)] c%29 AND)" =
        .ok ⟨p.nodes ++ [.operator .andNot] ++ [.group q.nodes]⟩ :=
  ⟨rfl, rfl, parse_joined .andNot (a := "ti:graphs OR (au:x) and ") (b := "or all:[)] c%29 AND")
    rfl rfl⟩

end Query
end PaperSearch
