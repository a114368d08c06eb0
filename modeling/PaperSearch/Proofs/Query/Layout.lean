import PaperSearch.Proofs.Query.Joined
import PaperSearch.Proofs.Query.Keyword
import PaperSearch.Proofs.Query.Reading
import PaperSearch.Proofs.Query.Words

/-!
# Layout and letter case

The tokens of a text can be laid out in many ways: with other blanks between them, and with the
operators among them in other letter cases. What is read is the same each time.

* `Writes`: what may be written for a word.
* `Lays`: the texts in which given tokens are laid out. The text that they come from is one of them
  (`lays_of_scan`).
* `Lays.reads`: a scan of any such text gives tokens that are read as the given ones are. No blank
  moves the end of a value, because every word that says something ends a value before it
  (`endsValue_of_says`).
-/

namespace PaperSearch

open Token Query

/-! ## Keywords -/

namespace Operator

variable {op : Operator} {w : List Char}

theorem SpelledBy.isPlain (h : op.SpelledBy w) : ∀ c ∈ w, isPlain c = true := by
  intro c hc
  have hmem : c.toUpper ∈ op.keyword := by
    rw [← spelledBy_iff.mp h]
    exact List.mem_map_of_mem hc
  have hletters : ∀ d ∈ op.keyword, (Token.isPlain d && Token.isPlain d.toLower) = true := by
    apply List.all_eq_true.mp
    cases op <;> rfl
  obtain ⟨hupper, hlower⟩ := Bool.and_eq_true_iff.mp (hletters _ hmem)
  rcases (toUpper_eq_iff hmem).mp rfl with heq | heq
  · rw [heq]
    exact hupper
  · rw [heq]
    exact hlower

theorem SpelledBy.ne_nil (h : op.SpelledBy w) : w ≠ [] := by
  rintro rfl
  exact op.keyword_ne_nil (spelledBy_iff.mp h).symm

/-- A keyword in any mixture of cases is one word. -/
theorem SpelledBy.alone (h : op.SpelledBy w) : scan w = .ok [.word w] := by
  have hscan := scanFrom_word h.isPlain h.ne_nil endsWord_nil 0
  rw [List.append_nil] at hscan
  exact hscan

end Operator

/-! ## Layouts -/

/-- What may be written for a word: the word itself, or, for a keyword, the same keyword in another
mixture of letter cases. -/
def Writes (w w' : List Char) : Prop :=
  w' = w ∨ ∃ op : Operator, op.SpelledBy w ∧ op.SpelledBy w'

/-- The text is the tokens in order, with any blanks before, between and after them, but at least
one between two words. -/
inductive Token.Lays : List Token → List Char → Prop
  | nil {blanks : List Char} (hblanks : ∀ c ∈ blanks, Text.isBlank c = true) : Lays [] blanks
  | opening {blanks text : List Char} {tokens : List Token}
      (hblanks : ∀ c ∈ blanks, Text.isBlank c = true) (h : Lays tokens text) :
      Lays (.opening :: tokens) (blanks ++ '(' :: text)
  | closing {blanks text : List Char} {tokens : List Token}
      (hblanks : ∀ c ∈ blanks, Text.isBlank c = true) (h : Lays tokens text) :
      Lays (.closing :: tokens) (blanks ++ ')' :: text)
  | word {blanks w w' text : List Char} {tokens : List Token}
      (hblanks : ∀ c ∈ blanks, Text.isBlank c = true) (hw : Writes w w')
      (apart : (∃ v, tokens.head? = some (.word v)) → ∃ c ∈ text.head?, Text.isBlank c = true)
      (h : Lays tokens text) : Lays (.word w :: tokens) (blanks ++ (w' ++ text))

/-! ## Words that say something -/

namespace Query

variable {w w' : List Char} {said : Saying}

/-- A keyword says its operator and nothing else. -/
theorem Says.eq_operator {op : Operator} (h : Says w said) (hw : op.SpelledBy w) :
    said = .operator op := by
  have hkeyword := Operator.ofKeyword?_eq_some_iff.mpr hw
  cases h with
  | operator h => rw [Option.some.inj (h.symm.trans hkeyword)]
  | range field h =>
    rw [Operator.ofKeyword?_of_colon (by simp)] at hkeyword
    cases hkeyword
  | term field h =>
    rw [Operator.ofKeyword?_of_colon (by simp)] at hkeyword
    cases hkeyword

/-- What is written for a word says the same. -/
theorem Says.of_writes (h : Says w said) (hw : Writes w w') : Says w' said := by
  rcases hw with rfl | ⟨op, hw, hw'⟩
  · exact h
  · rw [h.eq_operator hw]
    exact .operator (Operator.ofKeyword?_eq_some_iff.mpr hw')

theorem alone_of_writes (h : scan w = .ok [.word w]) (hw : Writes w w') :
    scan w' = .ok [.word w'] := by
  rcases hw with rfl | ⟨op, -, hw'⟩
  · exact h
  · exact hw'.alone

/-- A word that says something ends a value before it. -/
theorem endsValue_of_says (h : Says w said) {rest : List Char}
    (hrest : ∀ c ∈ rest.head?, (!Text.isBlank c && !isParen c) = false) :
    endsValue (w ++ rest) = true := by
  cases h with
  | @operator _ op h =>
    have hspelled := Operator.ofKeyword?_eq_some_iff.mp h
    rw [endsValue_run hspelled.ne_nil (fun c hc => isWordChar_of_isPlain (hspelled.isPlain c hc))
      hrest, h]
    rfl
  | range field h =>
    rw [List.append_assoc]
    exact endsValue_named field.isPlain_name field.name_ne_nil _
  | term field h =>
    rw [List.append_assoc]
    exact endsValue_named field.isPlain_code field.code_ne_nil _

end Query

namespace Token

/-- The token is a parenthesis, or a word that is one alone and says something. -/
def Speaking : Token → Prop
  | .word w => scan w = .ok [.word w] ∧ ∃ said, Says w said
  | _ => True

variable {tokens : List Token} {text : List Char}

/-- A text that begins with a blank or with a parenthesis begins with no word. -/
theorem head_of_blanks {blanks rest : List Char} {c : Char}
    (hblanks : ∀ c ∈ blanks, Text.isBlank c = true) (hc : isParen c = true) :
    ∀ d ∈ (blanks ++ c :: rest).head?, (!Text.isBlank d && !isParen d) = false := by
  intro d hd
  cases blanks with
  | nil =>
    obtain rfl : c = d := by simpa using hd
    simp [hc]
  | cons blank blanks =>
    obtain rfl : blank = d := by simpa using hd
    simp [hblanks blank List.mem_cons_self]

/-- A text behind a word begins with no other word. -/
theorem Lays.head (h : Lays tokens text)
    (apart : (∃ v, tokens.head? = some (.word v)) → ∃ c ∈ text.head?, Text.isBlank c = true) :
    ∀ c ∈ text.head?, (!Text.isBlank c && !isParen c) = false := by
  cases h with
  | nil hblanks =>
    intro c hc
    simp [hblanks c (List.mem_of_mem_head? hc)]
  | opening hblanks h => exact head_of_blanks hblanks rfl
  | closing hblanks h => exact head_of_blanks hblanks rfl
  | word hblanks hw _ h =>
    intro c hc
    obtain ⟨d, hd, hblank⟩ := apart ⟨_, rfl⟩
    rw [Option.mem_unique hc hd, hblank]
    rfl

/-- However tokens are laid out, a value before them ends. -/
theorem Lays.endsValue (h : Lays tokens text) (hspeak : ∀ token ∈ tokens, token.Speaking) :
    endsValue text = true := by
  have hparen : ∀ {c : Char} (rest : List Char), isParen c = true → Text.isBlank c = false →
      Token.endsValue (c :: rest) = true := by
    intro c rest hc hblank
    rw [Token.endsValue, List.dropWhile_cons, if_neg (by simp [hblank])]
    simp [hc]
  cases h with
  | nil hblanks =>
    rw [← List.append_nil text, endsValue_blanks hblanks]
    rfl
  | opening hblanks h =>
    rw [endsValue_blanks hblanks]
    exact hparen _ rfl rfl
  | closing hblanks h =>
    rw [endsValue_blanks hblanks]
    exact hparen _ rfl rfl
  | word hblanks hw apart h =>
    obtain ⟨-, said, hsaid⟩ := hspeak _ List.mem_cons_self
    rw [endsValue_blanks hblanks]
    exact endsValue_of_says (hsaid.of_writes hw) (h.head apart)

/-- A text behind a word ends the word. -/
theorem Lays.endsWord (h : Lays tokens text) (hspeak : ∀ token ∈ tokens, token.Speaking)
    (apart : (∃ v, tokens.head? = some (.word v)) → ∃ c ∈ text.head?, Text.isBlank c = true) :
    EndsWord text := by
  have hhead := h.head apart
  have hends := h.endsValue hspeak
  cases text with
  | nil => exact endsWord_nil
  | cons c rest =>
    cases hblank : Text.isBlank c with
    | true =>
      have hskip := endsValue_blanks (List.forall_mem_singleton.mpr hblank) rest
      exact Or.inr ⟨hblank, hskip.symm.trans hends⟩
    | false =>
      have hword := hhead c rfl
      rw [hblank] at hword
      exact Or.inl (by simpa using hword)

/-- A scan of laid-out tokens that close what is open finds tokens that are read in the same way. -/
theorem Lays.reads (h : Lays tokens text) (hspeak : ∀ token ∈ tokens, token.Speaking) {depth : Nat}
    (hcloses : Closes depth tokens) :
    ∃ tokens', scanFrom (.clear depth) text = .ok tokens' ∧
      ∀ outer q, addTokens outer q tokens' = addTokens outer q tokens := by
  induction h generalizing depth with
  | @nil blanks hblanks =>
    obtain rfl := closes_nil.mp hcloses
    refine ⟨[], ?_, fun _ _ => rfl⟩
    rw [← List.append_nil blanks, scanFrom_clear_blanks hblanks]
    rfl
  | opening hblanks h ih =>
    obtain ⟨tokens', hscan, hread⟩ :=
      ih (fun token ht => hspeak token (List.mem_cons_of_mem _ ht)) (closes_opening.mp hcloses)
    refine ⟨.opening :: tokens', ?_, fun outer q => hread (q :: outer) .empty⟩
    rw [scanFrom_clear_blanks hblanks, scanFrom_opening (Position.clear_inBracket depth),
      Position.clear_depth, hscan]
    rfl
  | closing hblanks h ih =>
    cases depth with
    | zero => exact absurd hcloses closes_closing_zero
    | succ depth =>
      obtain ⟨tokens', hscan, hread⟩ :=
        ih (fun token ht => hspeak token (List.mem_cons_of_mem _ ht)) (closes_closing.mp hcloses)
      refine ⟨.closing :: tokens', ?_, fun outer q => ?_⟩
      · rw [scanFrom_clear_blanks hblanks,
          scanFrom_closing (Position.clear_inBracket _) (Nat.succ_ne_zero depth)]
        show (scanFrom (.clear depth) _).map _ = _
        rw [hscan]
        rfl
      · cases outer with
        | nil => rfl
        | cons around outer => exact hread outer (around.group q)
  | @word blanks w w' text tokens hblanks hw apart h ih =>
    have hrest : ∀ token ∈ tokens, token.Speaking :=
      fun token ht => hspeak token (List.mem_cons_of_mem _ ht)
    obtain ⟨halone, said, hsaid⟩ := hspeak _ List.mem_cons_self
    obtain ⟨tokens', hscan, hread⟩ := ih hrest (closes_word.mp hcloses)
    refine ⟨.word w' :: tokens', ?_, fun outer q => ?_⟩
    · rw [scanFrom_clear_blanks hblanks,
        scanFrom_clear_append (h.endsWord hrest apart) depth (alone_of_writes halone hw), hscan]
      rfl
    · simp only [addTokens, addWord_of_says hsaid, addWord_of_says (hsaid.of_writes hw), hread]

/-! ## The text itself -/

/-- A word does not begin with a parenthesis. -/
theorem head_of_alone {w : List Char} (h : scan w = .ok [.word w]) :
    ∃ c ∈ w.head?, isParen c = false := by
  cases w with
  | nil => cases h
  | cons c rest =>
    refine ⟨c, rfl, ?_⟩
    cases hparen : isParen c with
    | false => rfl
    | true =>
      simp only [isParen, Bool.or_eq_true, beq_iff_eq] at hparen
      rcases hparen with rfl | rfl
      · rw [scan, scanFrom_opening rfl] at h
        obtain ⟨others, -, hopening⟩ := exists_of_map_eq_ok h
        cases hopening
      · cases h

/-- Before a word that comes first there is no parenthesis. -/
theorem Divided.head (h : Divided text tokens) {v : List Char}
    (hnext : tokens.head? = some (.word v)) : ∃ c ∈ text.head?, isParen c = false := by
  cases h with
  | nil => cases hnext
  | @blank c _ _ hc h =>
    obtain ⟨hopening, hclosing, -⟩ := ne_of_isBlank hc
    exact ⟨c, rfl, by simp [isParen, hopening, hclosing]⟩
  | opening h => cases hnext
  | closing h => cases hnext
  | word alone apart h =>
    obtain ⟨c, hc, hparen⟩ := head_of_alone alone
    exact ⟨c, by rw [List.head?_append, Option.mem_def.mp hc]; rfl, hparen⟩

theorem Lays.blank {c : Char} (hc : Text.isBlank c = true) (h : Lays tokens text) :
    Lays tokens (c :: text) := by
  cases h with
  | nil hblanks => exact .nil (List.forall_mem_cons.mpr ⟨hc, hblanks⟩)
  | opening hblanks h => exact .opening (List.forall_mem_cons.mpr ⟨hc, hblanks⟩) h
  | closing hblanks h => exact .closing (List.forall_mem_cons.mpr ⟨hc, hblanks⟩) h
  | word hblanks hw apart h => exact .word (List.forall_mem_cons.mpr ⟨hc, hblanks⟩) hw apart h

theorem lays_of_divided (h : Divided text tokens) : Lays tokens text := by
  induction h with
  | nil => exact .nil (List.forall_mem_nil _)
  | blank hc h ih => exact ih.blank hc
  | opening h ih => exact .opening (List.forall_mem_nil _) ih
  | closing h ih => exact .closing (List.forall_mem_nil _) ih
  | word alone apart h ih =>
    refine .word (List.forall_mem_nil _) (Or.inl rfl) ?_ ih
    rintro ⟨v, hnext⟩
    obtain ⟨c, hc, hparen⟩ := h.head hnext
    refine ⟨c, hc, ?_⟩
    simpa [hparen] using apart c hc

/-- A text is one of the layouts of its tokens. -/
theorem lays_of_scan (h : scan text = .ok tokens) : Lays tokens text :=
  lays_of_divided (divided_of_scan h)

/-- The tokens of a text that is read as a query all say something. -/
theorem speaking_of_scan (hscan : scan text = .ok tokens) {q : Query}
    (h : ofTokens tokens = .ok q) : ∀ token ∈ tokens, token.Speaking := by
  intro token htoken
  cases token with
  | opening => trivial
  | closing => trivial
  | word w =>
    have hspeaks := (ofTokens_of_closes (closes_of_scan hscan)).2.1.mp ⟨q, h⟩ w htoken
    obtain ⟨said, hsaid, -⟩ | ⟨e, hrefused⟩ := addWord_says w
    · exact ⟨((divided_of_scan hscan).of_mem htoken).2, said, hsaid⟩
    · obtain ⟨r, hr⟩ := hspeaks
      rw [hrefused] at hr
      cases hr

end Token

namespace Query

/-- **Layout and letter case carry no meaning.** A text that is read as a query has tokens, it is
one of the layouts of these, and every other layout of them is read as the same query. -/
theorem parse_of_lays {s : String} {q : Query} (h : parse s = .ok q) :
    ∃ tokens, scan s.toList = .ok tokens ∧ Lays tokens s.toList ∧
      ∀ t : String, Lays tokens t.toList → parse t = .ok q := by
  obtain ⟨tokens, hscan, hread⟩ := exists_tokens_of_parse h
  refine ⟨tokens, hscan, lays_of_scan hscan, fun t hlays => ?_⟩
  obtain ⟨tokens', hscan', hsame⟩ :=
    hlays.reads (speaking_of_scan hscan hread) (closes_of_scan hscan)
  have hscan' : scan t.toList = .ok tokens' := hscan'
  rw [parse, hscan', ← hread]
  exact hsame [] .empty

/-- Operators in other cases, a group right beside its neighbours or apart from them, and blanks of
other kinds; the blanks in a value, a bracket and an escape stay as they are. -/
theorem parse_of_lays_respaced :
    let s := "ti:a  b and(au:x%20y) OR abs:[c: (d)] e"
    let t := "\u3000ti:a  b\n aNd ( au:x%20y\t)or\u2003abs:[c: (d)] e "
    let q := ((((empty.term .title "a  b").operator .and).group (empty.term .author "x y")).operator
      .or).term .abstract "[c: (d)] e"
    parse s = .ok q ∧ parse t = .ok q := by
  intro s t q
  have hparse : parse "ti:a  b and(au:x%20y) OR abs:[c: (d)] e" = .ok q := rfl
  obtain ⟨tokens, hscan, -, hall⟩ := parse_of_lays hparse
  have htokens : scan "ti:a  b and(au:x%20y) OR abs:[c: (d)] e".toList =
      .ok [.word "ti:a  b".toList, .word "and".toList, .opening, .word "au:x%20y".toList, .closing,
        .word "OR".toList, .word "abs:[c: (d)] e".toList] := rfl
  obtain rfl := Except.ok.inj (htokens.symm.trans hscan)
  have hand : Writes "and".toList "aNd".toList :=
    Or.inr ⟨.and, Operator.ofKeyword?_eq_some_iff.mp rfl, Operator.ofKeyword?_eq_some_iff.mp rfl⟩
  have hor : Writes "OR".toList "or".toList :=
    Or.inr ⟨.or, Operator.ofKeyword?_eq_some_iff.mp rfl, Operator.ofKeyword?_eq_some_iff.mp rfl⟩
  have hlays : Lays _ ("\u3000".toList ++ ("ti:a  b".toList ++ ("\n ".toList ++ ("aNd".toList ++
      (" ".toList ++ '(' :: (" ".toList ++ ("au:x%20y".toList ++ ("\t".toList ++ ')' :: ([] ++
        ("or".toList ++ ("\u2003".toList ++ ("abs:[c: (d)] e".toList ++ " ".toList)))))))))))) :=
    .word (List.all_eq_true.mp rfl) (.inl rfl) (fun _ => ⟨'\n', rfl, by decide⟩) <|
    .word (List.all_eq_true.mp rfl) hand (fun _ => ⟨' ', rfl, by decide⟩) <|
    .opening (List.all_eq_true.mp rfl) <|
    .word (List.all_eq_true.mp rfl) (.inl rfl) (fun _ => ⟨'\t', rfl, by decide⟩) <|
    .closing (List.all_eq_true.mp rfl) <|
    .word (List.all_eq_true.mp rfl) hor (fun _ => ⟨'\u2003', rfl, by decide⟩) <|
    .word (List.all_eq_true.mp rfl) (.inl rfl) (fun _ => ⟨' ', rfl, by decide⟩) <|
    .nil (List.all_eq_true.mp rfl)
  exact ⟨hparse, hall _ (by simpa [t] using hlays)⟩

end Query
end PaperSearch
