import PaperSearch.Proofs.Query.RoundTrip
import PaperSearch.Proofs.Query.Words

/-!
# Reading what was read

What is read from a text is a query that building steps make (`built_of_parse`), and each of its
values was kept together by the scan. So its own text is read back as the same query, however the
text it came from was laid out, unless that text has escapes (`parse_encode_of_parse`).

A query that was built may have values that a scan takes apart. It is read back from its text
exactly when it has none, and the text alone is kept exactly when it is also the text of a query
that has none (`encode_kept_iff`).
-/

namespace PaperSearch

open Token

namespace Node

theorem valuesAll_append (nodes nodes' : List Node) :
    valuesAll (nodes ++ nodes') = valuesAll nodes ++ valuesAll nodes' := by
  induction nodes with
  | nil => rfl
  | cons node nodes ih => rw [List.cons_append, valuesAll, valuesAll, ih, List.append_assoc]

end Node

namespace Query

/-! ## Values of what is added -/

theorem values_push (q : Query) (node : Node) : (q.push node).values = q.values ++ node.values := by
  rw [values, push, Node.valuesAll_append, Node.valuesAll, Node.valuesAll, List.append_nil]
  rfl

theorem mem_values_group {q inner : Query} {v : String} (h : v ∈ (q.group inner).values) :
    v ∈ q.values ∨ v ∈ inner.values := by
  unfold group at h
  split at h
  · exact Or.inl h
  · rw [values_push, List.mem_append] at h
    exact h

theorem mem_values_add {q : Query} {said : Saying} {v : String} (h : v ∈ (q.add said).values) :
    v ∈ q.values ∨ ∃ field, said = .term field v := by
  have hpush : ∀ (r : Query) (node : Node), node.values = [] → (r.push node).values = r.values := by
    intro r node hnode
    rw [values_push, hnode, List.append_nil]
  cases said with
  | operator op =>
    simp only [add, operator] at h
    split at h
    · exact Or.inl h
    · rw [hpush _ _ rfl] at h
      exact Or.inl h
  | range field first last =>
    simp only [add, dateRange] at h
    rw [hpush _ _ rfl] at h
    split at h
    · rw [hpush _ _ rfl] at h
      exact Or.inl h
    · exact Or.inl h
  | term field value =>
    simp only [add, term, values_push, List.mem_append, Node.values, List.mem_singleton] at h
    rcases h with h | rfl
    · exact Or.inl h
    · exact Or.inr ⟨field, rfl⟩

theorem Built.add {q : Query} (h : q.Built) (said : Saying) : (q.add said).Built := by
  cases said with
  | operator op => exact h.operator op
  | range field first last => exact h.dateRange field first last
  | term field value => exact h.term field value

/-! ## What is read -/

/-- What groups and the sayings of words keep holds of a query that is read. -/
theorem of_addTokens {P : Query → Prop} {tokens : List Token} (hEmpty : P .empty)
    (hGroup : ∀ {q inner}, P q → P inner → P (q.group inner))
    (hAdd : ∀ {w said}, .word w ∈ tokens → Says w said → ∀ {q}, P q → P (q.add said))
    {outer : List Query} {q r : Query} (hOuter : ∀ around ∈ outer, P around) (hq : P q)
    (h : addTokens outer q tokens = .ok r) : P r := by
  induction tokens generalizing outer q with
  | nil =>
    rw [addTokens] at h
    split at h
    · cases h
      exact hq
    · cases h
  | cons token tokens ih =>
    have ih := @ih fun hw => hAdd (List.mem_cons_of_mem _ hw)
    cases token with
    | opening => exact ih (List.forall_mem_cons.mpr ⟨hq, hOuter⟩) hEmpty h
    | closing =>
      cases outer with
      | nil => cases h
      | cons around outer =>
        obtain ⟨hAround, hOuter⟩ := List.forall_mem_cons.mp hOuter
        exact ih hOuter (hGroup hAround hq) h
    | word w =>
      rw [addTokens] at h
      obtain ⟨said, hsays, hadd⟩ | ⟨e, hrefused⟩ := addWord_says w
      · rw [hadd] at h
        exact ih hOuter (hAdd List.mem_cons_self hsays hq) h
      · rw [hrefused] at h
        cases h

/-- The text has a word for a field whose value is kept together by a scan and says this. -/
def Holds (text : List Char) (value : String) : Prop :=
  ∃ raw, raw <:+: text ∧ staysOpen false raw = true ∧
    Text.Percent.decode? raw = some value.toList

/-- A word for a field that is a word alone has a value that stays open. -/
theorem staysOpen_of_scan {field : Field} {raw : List Char}
    (h : Token.scan (field.code ++ ':' :: raw) = .ok [.word (field.code ++ ':' :: raw)]) :
    staysOpen false raw = true := by
  rw [scan_term] at h
  obtain ⟨piece, after, others, hword⟩ := exists_completes (by simp) h
  have hpiece : raw = piece ∧ others = [] := by simpa using hword.tokens_eq
  rw [hpiece.1]
  exact (hword.value rfl).1

/-- A query that is read can be built, and the text holds all its values. -/
theorem built_of_parse {s : String} {q : Query} (h : parse s = .ok q) :
    q.Built ∧ ∀ v ∈ q.values, Holds s.toList v := by
  rw [parse] at h
  split at h
  · rename_i tokens hscan
    have hdivided := divided_of_scan hscan
    have hempty : Query.empty.Built ∧ ∀ v ∈ Query.empty.values, Holds s.toList v :=
      ⟨.empty, fun v hv => by cases hv⟩
    refine of_addTokens (P := fun q => q.Built ∧ ∀ v ∈ q.values, Holds s.toList v) hempty ?_ ?_
      (List.forall_mem_nil _) hempty h
    · rintro q inner ⟨hq, hvalues⟩ ⟨hinner, hinners⟩
      refine ⟨hq.group hinner, fun v hv => ?_⟩
      rcases mem_values_group hv with hv | hv
      · exact hvalues v hv
      · exact hinners v hv
    · rintro w said hw hsays q ⟨hq, hvalues⟩
      refine ⟨hq.add said, fun v hv => ?_⟩
      rcases mem_values_add hv with hv | ⟨field, rfl⟩
      · exact hvalues v hv
      · obtain ⟨hpart, halone⟩ := hdivided.of_mem hw
        cases hsays with
        | @term _ raw value hdecode =>
          have hraw : raw <:+: field.code ++ ':' :: raw :=
            ((List.suffix_cons ':' raw).trans (List.suffix_append _ _)).isInfix
          refine ⟨raw, hraw.trans hpart, staysOpen_of_scan halone, ?_⟩
          rw [hdecode, String.toList_ofList]
  · cases h

theorem spelled_of_holds {text : List Char} {value : String}
    (hEscape : ¬ Text.Percent.HasEscape text) (h : Holds text value) : Spelled id value := by
  obtain ⟨raw, hpart, hopen, hdecode⟩ := h
  have hplain : ¬ Text.Percent.HasEscape raw := fun h => hEscape (h.of_infix hpart)
  have hraw : raw = value.toList := by
    rw [Text.Percent.decode?_of_not_hasEscape hplain] at hdecode
    exact Option.some.inj hdecode
  subst hraw
  exact ⟨hopen, hdecode⟩

/-- The values of a query that is read from a text without escapes stay together and are decoded
as they are. -/
theorem spelled_of_parse {s : String} {q : Query} (hEscape : ¬ Text.Percent.HasEscape s.toList)
    (h : parse s = .ok q) : ∀ v ∈ q.values, Spelled id v :=
  fun v hv => spelled_of_holds hEscape ((built_of_parse h).2 v hv)

/-- **Reading is stable.** What is read from a text without escapes is read again from its own
text. -/
theorem parse_encode_of_parse {s : String} {q : Query}
    (hEscape : ¬ Text.Percent.HasEscape s.toList) (h : parse s = .ok q) :
    parse q.encode = .ok q :=
  parse_encode_of_spelled (built_of_parse h).1.lawful (spelled_of_parse hEscape h)

/-- An operator in front, an empty group, blanks of several kinds, a group right beside its
neighbours and a date range with blanks in it and no operator before it. -/
theorem parse_encode_of_parse_untidy :
    let s := "or()ti:graph \u2003 networks\t(au:x)submittedDate:[ 000001010000  TO 999912312359]\n"
    let q := ((Query.empty.term .title "graph \u2003 networks").group
      (Query.empty.term .author "x")).dateRange .submitted .firstWire .lastWire
    ¬ Text.Percent.HasEscape s.toList ∧ parse s = .ok q ∧ parse q.encode = .ok q :=
  have hEscape := Text.Percent.not_hasEscape_of_not_mem (by decide)
  have hparse := rfl
  ⟨hEscape, hparse, parse_encode_of_parse hEscape hparse⟩

end Query

/-! ## The text alone -/

namespace Node

open Text.Percent

theorem not_mem_wire_range {field : DateField} {first last : Time.Instant} (hFirst : first.IsWire)
    (hLast : last.IsWire) : '%' ∉ (range field first last).wire := by
  have hdigits : ∀ {t : Time.Instant}, t.IsWire → '%' ∉ t.wireDigits := by
    intro t ht hmem
    exact absurd (Time.Instant.isDigit_of_mem_wireDigits ht hmem) (by decide)
  have hname : '%' ∉ field.name := by cases field <;> decide
  simp [wire, hname, hdigits hFirst, hdigits hLast]

mutual

/-- An escape in the text of a node is one in a value. -/
theorem exists_hasEscape_of_wire : ∀ {node : Node}, node.Lawful → HasEscape node.wire →
    ∃ v ∈ node.values, HasEscape v.toList
  | term field value, _, h => by
    rw [wire] at h
    rcases h.of_append (by decide) (by decide) with h | h
    · exact absurd h (not_hasEscape_of_not_mem (by cases field <;> decide))
    · exact ⟨value, List.mem_singleton_self value, h⟩
  | operator op, _, h => by
    exact absurd h (not_hasEscape_of_not_mem (by cases op <;> decide))
  | range _ _ _, hLawful, h =>
    absurd h (not_hasEscape_of_not_mem (not_mem_wire_range hLawful.1 hLawful.2))
  | group nodes, hLawful, h => by
    rw [wire, List.cons_append, hasEscape_cons (by decide)] at h
    rcases h.of_append (by decide) (by decide) with h | h
    · exact exists_hasEscape_of_wireAll hLawful.2 h
    · exact absurd h (not_hasEscape_of_not_mem (by decide))

theorem exists_hasEscape_of_wireAll : ∀ {nodes : List Node} {before : Option Node},
    LawfulAfter before nodes → HasEscape (wireAll nodes) → ∃ v ∈ valuesAll nodes, HasEscape v.toList
  | [], _, _, h => absurd h (not_hasEscape_of_not_mem (by decide))
  | [node], _, hLawful, h => by
    obtain ⟨v, hv, hEscape⟩ := exists_hasEscape_of_wire hLawful.2.1 h
    exact ⟨v, mem_valuesAll_cons.mpr (Or.inl hv), hEscape⟩
  | node :: next :: nodes, _, hLawful, h => by
    rw [wireAll_cons_cons] at h
    rcases h.of_append (by decide) (by decide) with h | h
    · obtain ⟨v, hv, hEscape⟩ := exists_hasEscape_of_wire hLawful.2.1 h
      exact ⟨v, mem_valuesAll_cons.mpr (Or.inl hv), hEscape⟩
    · obtain ⟨v, hv, hEscape⟩ := exists_hasEscape_of_wireAll hLawful.2.2 h
      exact ⟨v, mem_valuesAll_cons.mpr (Or.inr hv), hEscape⟩

end

end Node

namespace Query

theorem not_hasEscape_encode {q : Query} (h : q.Lawful)
    (hValues : ∀ v ∈ q.values, ¬ Text.Percent.HasEscape v.toList) :
    ¬ Text.Percent.HasEscape q.encode.toList := by
  intro hEscape
  rw [encode, String.toList_ofList] at hEscape
  obtain ⟨v, hv, hEscape⟩ := Node.exists_hasEscape_of_wireAll h hEscape
  exact hValues v hv hEscape

/-- **Which texts are kept.** Take a query that was built and whose values hold no escapes. Its text
is read as a query with the same text exactly when that is also the text of a query whose values
survive, and it is read as the query itself exactly when the query's own values survive. -/
theorem encode_kept_iff {q : Query} (h : q.Built)
    (hEscape : ∀ v ∈ q.values, ¬ Text.Percent.HasEscape v.toList) :
    ((∃ r, parse q.encode = .ok r ∧ r.encode = q.encode) ↔
      ∃ r : Query, r.Built ∧ (∀ v ∈ r.values, SurvivesAlone v) ∧ r.encode = q.encode) ∧
    (parse q.encode = .ok q ↔ ∀ v ∈ q.values, SurvivesAlone v) := by
  have hplain := not_hasEscape_encode h.lawful hEscape
  have hsurvive : ∀ {r : Query}, parse q.encode = .ok r → ∀ v ∈ r.values, SurvivesAlone v :=
    fun hparse v hv => survivesAlone_of_spelled (spelled_of_parse hplain hparse v hv)
  have hread : ∀ {r : Query}, r.Built → (∀ v ∈ r.values, SurvivesAlone v) →
      parse r.encode = .ok r :=
    fun hr hvalues => parse_encode_of_spelled hr.lawful fun v hv =>
      spelled_of_survivesAlone (hvalues v hv)
  refine ⟨⟨?_, ?_⟩, hsurvive, hread h⟩
  · rintro ⟨r, hparse, hencode⟩
    exact ⟨r, (built_of_parse hparse).1, hsurvive hparse, hencode⟩
  · rintro ⟨r, hr, hvalues, hencode⟩
    exact ⟨r, hencode ▸ hread hr hvalues, hencode⟩

/-- A value that is read as an operator between two terms, with the text that it had. -/
theorem encode_kept_apart :
    let q := Query.empty.term .title "a OR ti:b"
    (q.Built ∧ ∀ v ∈ q.values, ¬ Text.Percent.HasEscape v.toList) ∧
      (∃ r, parse q.encode = .ok r ∧ r.encode = q.encode) ∧ parse q.encode ≠ .ok q := by
  intro q
  have hBuilt : q.Built := .term _ _ .empty
  have hEscape : ∀ v ∈ q.values, ¬ Text.Percent.HasEscape v.toList := by
    intro v hv
    rw [List.mem_singleton.mp hv]
    exact Text.Percent.not_hasEscape_of_not_mem (by decide)
  let apart := ((Query.empty.term .title "a").operator .or).term .title "b"
  have hApart : apart.Built := .term _ _ (.operator _ (.term _ _ .empty))
  have hSurvive : ∀ v ∈ apart.values, SurvivesAlone v := by
    intro v hv
    have hmem : v ∈ ["a", "b"] := hv
    simp only [List.mem_cons, List.not_mem_nil, or_false] at hmem
    rcases hmem with rfl | rfl
    · exact rfl
    · exact rfl
  obtain ⟨hText, hTree⟩ := encode_kept_iff hBuilt hEscape
  refine ⟨⟨hBuilt, hEscape⟩, hText.mpr ⟨apart, hApart, hSurvive, rfl⟩, fun hparse => ?_⟩
  have hWhole : SurvivesAlone "a OR ti:b" := hTree.mp hparse _ (List.mem_singleton_self _)
  exact absurd (survivesAlone_iff.mp hWhole).1 (by decide)

/-- A value with parentheses is not read back. -/
theorem not_encode_kept_parentheses :
    let q := Query.empty.term .title "foo (bar)"
    q.Built ∧ (∀ v ∈ q.values, ¬ Text.Percent.HasEscape v.toList) ∧
      ¬ ∃ r, parse q.encode = .ok r ∧ r.encode = q.encode := by
  intro q
  refine ⟨.term _ _ .empty, ?_, ?_⟩
  · intro v hv
    rw [List.mem_singleton.mp hv]
    exact Text.Percent.not_hasEscape_of_not_mem (by decide)
  · rintro ⟨r, hparse, -⟩
    have hrefused : parse (Query.empty.term .title "foo (bar)").encode =
        .error (.malformedToken "bar") := rfl
    cases hrefused.symm.trans hparse

end Query
end PaperSearch
