import PaperSearch.Proofs.Query.Saying
import PaperSearch.Proofs.Text.Percent

/-!
# Queries read back

A query that building steps make is read back from its text as it is, node for node, when its
values are spelled so that they survive.

* `parse_encode_mapValues`: the general form, for any spelling of the values.
* `parse_encode_of_survivesAlone`: values written as they are, each of which survives in a query of
  its own. Surviving does not depend on the neighbours, because a scan decides it without looking
  past the value (`survivesAlone_iff`).
* `parse_encode_escaped`: all values, with what is not unreserved written as escapes.
-/

namespace PaperSearch

open Token

namespace Node

mutual

theorem values_mapValues (f : String → String) : ∀ node : Node,
    (node.mapValues f).values = node.values.map f
  | term _ _ => rfl
  | operator _ => rfl
  | range _ _ _ => rfl
  | group nodes => valuesAll_mapValuesAll f nodes

theorem valuesAll_mapValuesAll (f : String → String) : ∀ nodes : List Node,
    valuesAll (mapValuesAll f nodes) = (valuesAll nodes).map f
  | [] => rfl
  | node :: nodes => by
    rw [mapValuesAll, valuesAll, valuesAll, values_mapValues f node,
      valuesAll_mapValuesAll f nodes, List.map_append]

end

end Node

namespace Query

/-! ## Any spelling -/

theorem lawful_mapValues {f : String → String} {q : Query} (h : q.Lawful) :
    (q.mapValues f).Lawful :=
  Node.lawfulAfter_mapValuesAll none q.nodes h

/-- The tokens of a lawful query whose values stay open. -/
theorem scan_wire {q : Query} (h : q.Lawful)
    (hValues : ∀ v ∈ q.values, staysOpen false v.toList = true) :
    Token.scan q.wire = .ok (Node.tokensAll q.nodes) := by
  have hscan := Node.scanFrom_wireAll q.nodes none 0 hValues h endsWord_nil
  rw [List.append_nil] at hscan
  refine hscan.trans ?_
  simp [scanFrom, Except.map]

theorem parse_encode_mapValues {f : String → String} {q : Query} (h : q.Lawful)
    (hValues : ∀ v ∈ q.values, Spelled f v) : parse (q.mapValues f).encode = .ok q := by
  have hopen : ∀ v ∈ (q.mapValues f).values, staysOpen false v.toList = true := by
    intro v hv
    rw [values, mapValues, Node.valuesAll_mapValuesAll] at hv
    obtain ⟨value, hvalue, rfl⟩ := List.mem_map.mp hv
    exact (hValues value hvalue).1
  have hreplay := Node.addTokens_tokensAll (f := f) q.nodes [] .empty [] hValues h
  rw [List.append_nil] at hreplay
  rw [parse, encode, String.toList_ofList, scan_wire (lawful_mapValues h) hopen]
  refine hreplay.trans ?_
  simp [addTokens, empty]

/-- The special case of values that are written as they are. -/
theorem parse_encode_of_spelled {q : Query} (h : q.Lawful)
    (hValues : ∀ v ∈ q.values, Spelled id v) : parse q.encode = .ok q := by
  have hparse := parse_encode_mapValues h hValues
  rwa [mapValues_id] at hparse

/-! ## Values that survive -/

/-- The value is read back from a query of its own. -/
def SurvivesAlone (value : String) : Prop :=
  parse ("all:" ++ value) = .ok ⟨[.term .all value]⟩

theorem prefix_push (q : Query) (node : Node) : q.nodes <+: (q.push node).nodes :=
  List.prefix_append _ _

theorem prefix_operator (q : Query) (op : Operator) : q.nodes <+: (q.operator op).nodes := by
  unfold operator
  split
  · exact List.prefix_rfl
  · exact q.prefix_push _

theorem prefix_group (q inner : Query) : q.nodes <+: (q.group inner).nodes := by
  unfold group
  split
  · exact List.prefix_rfl
  · exact q.prefix_push _

theorem prefix_dateRange (q : Query) (field : DateField) (first last : Time.Instant) :
    q.nodes <+: (q.dateRange field first last).nodes := by
  simp only [dateRange]
  split
  · exact (q.prefix_push _).trans (prefix_push _ _)
  · exact q.prefix_push _

theorem prefix_add (q : Query) (said : Saying) : q.nodes <+: (q.add said).nodes := by
  cases said with
  | operator op => exact q.prefix_operator op
  | range field first last => exact q.prefix_dateRange field first last
  | term field value => exact q.prefix_push _

/-- A word adds to the end of a query. -/
theorem prefix_of_addWord {q r : Query} {w : List Char} (h : q.addWord w = .ok r) :
    q.nodes <+: r.nodes := by
  obtain ⟨said, -, hadd⟩ | ⟨e, hrefused⟩ := addWord_says w
  · rw [hadd] at h
    cases h
    exact q.prefix_add said
  · rw [hrefused] at h
    cases h

/-- Tokens add to the end of the outermost query. -/
theorem prefix_of_addTokens {tokens : List Token} {outer : List Query} {q r : Query}
    (h : addTokens outer q tokens = .ok r) : (outer.getLast?.getD q).nodes <+: r.nodes := by
  induction tokens generalizing outer q with
  | nil =>
    cases outer with
    | nil =>
      cases h
      exact List.prefix_rfl
    | cons around outer => simp [addTokens] at h
  | cons token tokens ih =>
    cases token with
    | opening => simpa [List.getLast?_cons] using ih h
    | closing =>
      cases outer with
      | nil => cases h
      | cons around outer =>
        rw [addTokens] at h
        have hrest := ih h
        rw [List.getLast?_cons, Option.getD_some]
        cases hlast : outer.getLast? with
        | none =>
          rw [hlast] at hrest
          exact (around.prefix_group q).trans hrest
        | some bottom =>
          rw [hlast] at hrest
          exact hrest
    | word w =>
      rw [addTokens] at h
      split at h
      · rename_i next hword
        have hrest := ih h
        cases hlast : outer.getLast? with
        | none =>
          rw [hlast] at hrest
          exact (prefix_of_addWord hword).trans hrest
        | some bottom =>
          rw [hlast] at hrest
          exact hrest
      · cases h

/-- A query that begins with a word for a field begins with the term that the word says. -/
theorem decode?_of_addTokens {field : Field} {raw : List Char} {tokens : List Token}
    {value : String}
    (h : addTokens [] .empty (.word (field.code ++ ':' :: raw) :: tokens) =
      .ok ⟨[.term field value]⟩) :
    Text.Percent.decode? raw = some value.toList := by
  have hne : field.code.isEmpty = false := by simpa using field.code_ne_nil
  rw [addTokens] at h
  cases hdecode : Text.Percent.decode? raw with
  | none =>
    have hword : empty.addWord (field.code ++ ':' :: raw) =
        .error (.invalidEncoding (String.ofList raw)) := by
      rw [addWord, Operator.ofKeyword?_of_colon (by simp),
        splitFirst?_append (not_colon_of_isPlain field.isPlain_code)]
      simp only [hne, DateField.ofName?_code, Field.parse_code, hdecode, Bool.false_eq_true,
        if_false]
    rw [hword] at h
    cases h
  | some text =>
    have hterm : Text.Percent.decode? raw = some (String.ofList text).toList := by
      rw [hdecode, String.toList_ofList]
    rw [addWord_term empty field hterm] at h
    have hprefix : [Node.term field (String.ofList text)] <+: [Node.term field value] :=
      prefix_of_addTokens h
    have heq := hprefix.eq_of_length rfl
    simp only [List.cons.injEq, Node.term.injEq, true_and, and_true] at heq
    rw [← heq, String.toList_ofList]

/-- A scan of a word for a field comes to its value with the word open. -/
theorem scan_term (field : Field) (raw : List Char) :
    Token.scan (field.code ++ ':' :: raw) =
      scanFrom ⟨':' :: field.code.reverse, true, false, 0⟩ raw := by
  rw [Token.scan, scanFrom_plain field.isPlain_code _ rfl, scanFrom_colon rfl]
  simp [Position.start, Position.grow]

theorem spelled_of_parse_term {field : Field} {value : String}
    (h : parse (String.ofList (field.code ++ ':' :: value.toList)) = .ok ⟨[.term field value]⟩) :
    Spelled id value := by
  rw [parse, String.toList_ofList, scan_term] at h
  split at h
  · rename_i tokens hscan
    obtain ⟨raw, after, others, hword⟩ := exists_completes (by simp) hscan
    have htoken : tokens = .word (field.code ++ ':' :: raw) :: others := by
      rw [hword.tokens_eq]
      simp
    rw [htoken] at h
    have hdecode : Text.Percent.decode? raw = some value.toList := decode?_of_addTokens h
    have hsplit := hword.text_eq
    have hnil : after = [] := Text.Percent.eq_nil_of_decode? (hsplit ▸ hdecode)
    rw [hnil, List.append_nil] at hsplit
    rw [Spelled, id_eq, hsplit]
    exact ⟨(hword.value rfl).1, hsplit ▸ hdecode⟩
  · cases h

/-- A field and a value are read back exactly when a scan keeps the value together and it is decoded
as it is. -/
theorem parse_term_iff_spelled {field : Field} {value : String} :
    parse (String.ofList (field.code ++ ':' :: value.toList)) = .ok ⟨[.term field value]⟩ ↔
      Spelled id value := by
  refine ⟨spelled_of_parse_term, fun h => ?_⟩
  have hlawful : Lawful ⟨[.term field value]⟩ := ⟨trivial, trivial, trivial⟩
  have hencode : encode ⟨[.term field value]⟩ =
      String.ofList (field.code ++ ':' :: value.toList) := rfl
  have hvalues : ∀ v ∈ (⟨[.term field value]⟩ : Query).values, Spelled id v := by
    intro v hv
    rwa [List.mem_singleton.mp hv]
  rw [← hencode]
  exact parse_encode_of_spelled hlawful hvalues

theorem toList_all (value : String) :
    ("all:" ++ value).toList = Field.all.code ++ ':' :: value.toList := by
  rw [String.toList_append]
  rfl

/-- A value survives alone exactly when a scan keeps it together and it holds no escape. -/
theorem survivesAlone_iff {value : String} : SurvivesAlone value ↔ Spelled id value := by
  rw [SurvivesAlone, ← String.ofList_toList (s := "all:" ++ value), toList_all]
  exact parse_term_iff_spelled

theorem spelled_of_survivesAlone {value : String} (h : SurvivesAlone value) : Spelled id value :=
  survivesAlone_iff.mp h

theorem survivesAlone_of_spelled {value : String} (h : Spelled id value) : SurvivesAlone value :=
  survivesAlone_iff.mpr h

/-- A query whose values survive, each in a query of its own, is read back from its text. -/
theorem parse_encode_of_survivesAlone {q : Query} (h : q.Built)
    (hValues : ∀ v ∈ q.values, SurvivesAlone v) : parse q.encode = .ok q := by
  have hparse := parse_encode_mapValues (f := id) h.lawful
    (fun v hv => survivesAlone_iff.mp (hValues v hv))
  rwa [mapValues_id] at hparse

/-- A group, a date range after it and values with blanks, colons in brackets and operators. -/
theorem parse_encode_nested :
    let inner := (Query.empty.term .abstract "score[AND: (x)] matching").dateRange .submitted
      .firstWire .lastWire
    let q := ((Query.empty.term .title "graph neural networks").operator .or).group inner
    parse q.encode = .ok q :=
  parse_encode_of_survivesAlone
    (.group (.operator .or (.term .title _ .empty))
      (.dateRange .submitted .firstWire .lastWire (.term .abstract _ .empty)))
    (fun v hv => by
      have hmem : v ∈ ["graph neural networks", "score[AND: (x)] matching"] := hv
      simp only [List.mem_cons, List.not_mem_nil, or_false] at hmem
      rcases hmem with rfl | rfl
      · exact rfl
      · exact rfl)

/-! ## Escaped values -/

/-- The query with its values escaped. -/
def escaped (q : Query) : Query :=
  q.mapValues fun value => String.ofList (Text.Percent.escape value.toList)

theorem isPlain_of_mem_escapedByte {b : UInt8} {c : Char}
    (h : c ∈ Text.Percent.escapedByte b) : isPlain c = true := by
  have hb : b.toNat < 256 := b.toNat_lt
  have hhex : ∀ n, n < 16 → isPlain (Text.Percent.hexDigit n) = true := by decide
  unfold Text.Percent.escapedByte at h
  split at h
  · rename_i hsafe
    rw [List.mem_singleton] at h
    simp only [Text.Percent.isUnreserved, Bool.or_eq_true, Bool.and_eq_true, decide_eq_true_eq,
      beq_iff_eq] at hsafe
    rw [h]
    apply isPlain_of_toNat <;> rw [Text.toNat_ofNat_of_lt hb] <;> omega
  · simp only [Text.Percent.escapeByte, List.mem_cons, List.not_mem_nil, or_false] at h
    rcases h with rfl | rfl | rfl
    · decide
    · exact hhex _ (by omega)
    · exact hhex _ (by omega)

theorem spelled_escape (value : String) :
    Spelled (fun v => String.ofList (Text.Percent.escape v.toList)) value := by
  simp only [Spelled, String.toList_ofList]
  refine ⟨staysOpen_of_isPlain ?_, Text.Percent.decode?_escape _⟩
  intro c hc
  obtain ⟨b, -, hb⟩ := List.mem_flatMap.mp hc
  exact isPlain_of_mem_escapedByte hb

/-- Every query is read back from its text with escaped values, whatever its values are. -/
theorem parse_encode_escaped {q : Query} (h : q.Built) : parse q.escaped.encode = .ok q :=
  parse_encode_mapValues h.lawful (fun v _ => spelled_escape v)

/-- A value that would end at once, and one that would leave its group. -/
theorem parse_encode_escaped_hostile :
    let q := (Query.empty.term .title "and [: 100%20").group (Query.empty.term .author "\u00e9) OR (")
    parse q.escaped.encode = .ok q :=
  parse_encode_escaped (.group (.term .title _ .empty) (.term .author _ .empty))

end Query
end PaperSearch
