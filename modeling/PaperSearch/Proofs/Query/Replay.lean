import PaperSearch.Proofs.Query.Wire
import PaperSearch.Query.Parser

/-!
# Words read back

Reading the tokens of a lawful query repeats the steps that made it. `Spelled f value` says that
what `f` writes for a value stays open as a value and is decoded as it; when all values of a query
are spelled so, `addTokens_tokensAll` says that its tokens are read as the query, with nothing
added, dropped or moved between groups.
-/

namespace PaperSearch

/-! ## Splitting -/

namespace Query

theorem splitFirst?_append {c : Char} {name : List Char} (h : ∀ d ∈ name, d ≠ c)
    (rest : List Char) : splitFirst? c (name ++ c :: rest) = some (name, rest) := by
  induction name with
  | nil => rw [List.nil_append, splitFirst?, if_pos rfl]
  | cons d name ih =>
    rw [List.cons_append, splitFirst?, if_neg (h d List.mem_cons_self),
      ih (fun e he => h e (List.mem_cons_of_mem d he))]
    rfl

theorem dropPrefix?_append (p rest : List Char) : dropPrefix? p (p ++ rest) = some rest := by
  induction p with
  | nil => simp [dropPrefix?]
  | cons c p ih => rw [List.cons_append, dropPrefix?, if_pos rfl, ih]

/-- A separator is found after a text without its first character. -/
theorem splitAt?_append {c : Char} {sep before : List Char} (h : ∀ d ∈ before, d ≠ c)
    (after : List Char) :
    splitAt? (c :: sep) (before ++ (c :: sep) ++ after) = some (before, after) := by
  induction before with
  | nil =>
    rw [List.nil_append, List.cons_append, splitAt?, ← List.cons_append, dropPrefix?_append]
  | cons d before ih =>
    have hd : c ≠ d := fun heq => h d List.mem_cons_self heq.symm
    rw [List.cons_append, List.cons_append, splitAt?, dropPrefix?, if_neg hd,
      ih (fun e he => h e (List.mem_cons_of_mem d he))]
    rfl

theorem unbracket?_bracketed (s : List Char) : unbracket? ('[' :: s ++ [']']) = some s := by
  simp [unbracket?]

end Query

theorem Text.trim_of_forall {s : List Char} (h : ∀ c ∈ s, isBlank c = false) : trim s = s := by
  have hdrop : ∀ t : List Char, (∀ c ∈ t, isBlank c = false) → t.dropWhile isBlank = t := by
    intro t ht
    cases t with
    | nil => rfl
    | cons c t => rw [List.dropWhile_cons, if_neg (by simp [ht c List.mem_cons_self])]
  have hreverse : ∀ c ∈ s.reverse, isBlank c = false := fun c hc => h c (List.mem_reverse.mp hc)
  rw [trim, trimLeft, hdrop s h, trimRight, hdrop s.reverse hreverse, List.reverse_reverse]

/-! ## Names -/

theorem Operator.ofKeyword?_of_colon {w : List Char} (h : ':' ∈ w) : ofKeyword? w = none := by
  have hupper : ':' ∈ w.map Char.toUpper := List.mem_map.mpr ⟨':', h, by decide⟩
  have hne : ∀ op : Operator, w.map Char.toUpper ≠ op.keyword := by
    intro op heq
    rw [heq] at hupper
    revert hupper
    cases op <;> decide
  simp only [ofKeyword?]
  rw [if_neg (hne .and), if_neg (hne .or), if_neg (hne .andNot)]

theorem DateField.ofName?_name (field : DateField) : ofName? field.name = some field := by
  cases field <;> decide

theorem DateField.ofName?_code (field : Field) : ofName? field.code = none := by
  cases field <;> decide

theorem Field.ofCode?_code (field : Field) : ofCode? field.code = some field := by
  cases field <;> decide

theorem Field.parse_code (field : Field) : Field.parse (String.ofList field.code) = .ok field := by
  rw [Field.parse, String.toList_ofList, ofCode?_code]

/-! ## Words -/

namespace Query

open Token Time

theorem not_colon_of_isPlain {name : List Char} (h : ∀ c ∈ name, isPlain c = true) :
    ∀ c ∈ name, c ≠ ':' := by
  rintro c hc rfl
  have hplain := h ':' hc
  revert hplain
  decide

theorem addWord_term (q : Query) (field : Field) {raw : List Char} {value : String}
    (h : Text.Percent.decode? raw = some value.toList) :
    q.addWord (field.code ++ ':' :: raw) = .ok (q.term field value) := by
  have hne : field.code.isEmpty = false := by simpa using field.code_ne_nil
  rw [addWord, Operator.ofKeyword?_of_colon (by simp),
    splitFirst?_append (not_colon_of_isPlain field.isPlain_code)]
  simp only [hne, DateField.ofName?_code, Field.parse_code, h, String.ofList_toList,
    Bool.false_eq_true, if_false]

theorem addWord_dateField (q : Query) (field : DateField) (raw : List Char) :
    q.addWord (field.name ++ ':' :: raw) =
      (parseDateRange raw).map fun ends => q.dateRange field ends.1 ends.2 := by
  have hne : field.name.isEmpty = false := by simpa using field.name_ne_nil
  rw [addWord, Operator.ofKeyword?_of_colon (by simp),
    splitFirst?_append (not_colon_of_isPlain field.isPlain_name)]
  simp only [hne, DateField.ofName?_name, Bool.false_eq_true, if_false]

theorem addWord_operator (q : Query) (op : Operator) :
    q.addWord op.keyword = .ok (q.operator op) := by
  rw [addWord, op.ofKeyword?_keyword]

theorem trim_wireDigits {t : Instant} (h : t.IsWire) : Text.trim t.wireDigits = t.wireDigits := by
  apply Text.trim_of_forall
  intro c hc
  have hplain := isPlain_of_isDigit (Instant.isDigit_of_mem_wireDigits h hc)
  simp only [isPlain, Bool.and_eq_true, Bool.not_eq_true'] at hplain
  exact hplain.1.1.1

theorem parseTimestamp_wireDigits {t : Instant} (h : t.IsWire) :
    parseTimestamp t.wireDigits = .ok t := by
  rw [parseTimestamp, Instant.ofWireDigits?_wireDigits h]

theorem parseDateRange_wireDigits {first last : Instant} (hFirst : first.IsWire)
    (hLast : last.IsWire) :
    parseDateRange (Node.bracketed first last) = .ok (first, last) := by
  have hspace : ∀ c ∈ first.wireDigits, c ≠ ' ' := by
    rintro c hc rfl
    have hdigit := Instant.isDigit_of_mem_wireDigits hFirst hc
    revert hdigit
    decide
  have hsplit : splitAt? " TO ".toList (first.wireDigits ++ " TO ".toList ++ last.wireDigits) =
      some (first.wireDigits, last.wireDigits) :=
    splitAt?_append hspace last.wireDigits
  rw [parseDateRange, Node.bracketed, unbracket?_bracketed, Option.bind_some, hsplit]
  simp only [trim_wireDigits hFirst, trim_wireDigits hLast, parseTimestamp_wireDigits hFirst,
    parseTimestamp_wireDigits hLast]
  rfl

theorem addWord_range (q : Query) (field : DateField) {first last : Instant}
    (hFirst : first.IsWire) (hLast : last.IsWire) :
    q.addWord (Node.range field first last).wire = .ok (q.dateRange field first last) := by
  rw [Node.wire_range, addWord_dateField, parseDateRange_wireDigits hFirst hLast]
  rfl

/-! ## Steps that change nothing but the end -/

theorem operator_eq_push {q : Query} {op : Operator}
    (h : (Node.operator op).Fits q.nodes.getLast?) : q.operator op = q.push (.operator op) := by
  have hne : ¬ q.isEmpty = true := by
    simpa [isEmpty, Node.Fits] using h
  rw [operator, if_neg hne]

theorem dateRange_eq_push {q : Query} {field : DateField} {first last : Instant}
    (h : (Node.range field first last).Fits q.nodes.getLast?) (hFirst : first.IsWire)
    (hLast : last.IsWire) :
    q.dateRange field first last = q.push (.range field first last) := by
  simp only [dateRange, endsOpen_eq_false_iff.mpr h, Instant.toWire_of_isWire hFirst,
    Instant.toWire_of_isWire hLast, Bool.false_eq_true, if_false]

theorem group_eq_push {q inner : Query} (h : inner.nodes ≠ []) :
    q.group inner = q.push (.group inner.nodes) := by
  have hne : ¬ inner.isEmpty = true := by simpa [isEmpty] using h
  rw [group, if_neg hne]

/-! ## Tokens -/

/-- What `f` writes for a value stays open as a value, and is decoded as it. -/
def Spelled (f : String → String) (value : String) : Prop :=
  staysOpen false (f value).toList = true ∧
    Text.Percent.decode? (f value).toList = some value.toList

end Query

namespace Node

open Query Token

variable {f : String → String}

theorem isOperator_mapValues (node : Node) : (node.mapValues f).isOperator = node.isOperator := by
  cases node <;> rfl

theorem fits_mapValues {before : Option Node} {node : Node} (h : node.Fits before) :
    (node.mapValues f).Fits (before.map (mapValues f)) := by
  cases node with
  | term field value => trivial
  | group nodes => trivial
  | operator op => simpa [mapValues, Fits] using h
  | range field first last =>
    intro other hother
    obtain ⟨node, hnode, rfl⟩ := Option.map_eq_some_iff.mp hother
    rw [isOperator_mapValues]
    exact h node hnode

mutual

theorem lawful_mapValues : ∀ {node : Node}, node.Lawful → (node.mapValues f).Lawful
  | term _ _, _ => trivial
  | operator _, _ => trivial
  | range _ _ _, h => h
  | group [], h => absurd rfl h.1
  | group (node :: nodes), h =>
    ⟨by simp [mapValuesAll], lawfulAfter_mapValuesAll none (node :: nodes) h.2⟩

theorem lawfulAfter_mapValuesAll : ∀ (before : Option Node) (nodes : List Node),
    LawfulAfter before nodes → LawfulAfter (before.map (mapValues f)) (mapValuesAll f nodes)
  | _, [], _ => trivial
  | _, node :: nodes, h =>
    ⟨fits_mapValues h.1, lawful_mapValues h.2.1, lawfulAfter_mapValuesAll (some node) nodes h.2.2⟩

end

mutual

/-- The tokens of a node with spelled values are read as the node. -/
theorem addTokens_tokens : ∀ (node : Node) (outer : List Query) (q : Query) (rest : List Token),
    (∀ v ∈ node.values, Spelled f v) → node.Fits q.nodes.getLast? → node.Lawful →
      addTokens outer q ((node.mapValues f).tokens ++ rest) = addTokens outer (q.push node) rest
  | term field value, outer, q, rest, hValues, _, _ => by
    have hdecode := (hValues value (by simp [values])).2
    simp only [mapValues, tokens, wire, List.cons_append, List.nil_append, addTokens,
      addWord_term q field hdecode]
    rfl
  | operator op, outer, q, rest, _, hFits, _ => by
    simp only [mapValues, tokens, wire, List.cons_append, List.nil_append, addTokens,
      addWord_operator, operator_eq_push hFits]
  | range field first last, outer, q, rest, _, hFits, hLawful => by
    simp only [mapValues, tokens, List.cons_append, List.nil_append, addTokens,
      addWord_range q field hLawful.1 hLawful.2, dateRange_eq_push hFits hLawful.1 hLawful.2]
  | group nodes, outer, q, rest, hValues, _, hLawful => by
    have hinner := addTokens_tokensAll nodes (q :: outer) .empty (.closing :: rest) hValues
      hLawful.2
    simp only [mapValues, tokens, List.cons_append, List.append_assoc, List.nil_append, addTokens]
    rw [hinner]
    simp only [Query.empty, List.nil_append, addTokens]
    rw [group_eq_push hLawful.1]

theorem addTokens_tokensAll : ∀ (nodes : List Node) (outer : List Query) (q : Query)
    (rest : List Token), (∀ v ∈ valuesAll nodes, Spelled f v) →
      LawfulAfter q.nodes.getLast? nodes →
      addTokens outer q (tokensAll (mapValuesAll f nodes) ++ rest) =
        addTokens outer ⟨q.nodes ++ nodes⟩ rest
  | [], outer, q, rest, _, _ => by
    simp [mapValuesAll, tokensAll]
  | node :: nodes, outer, q, rest, hValues, hLawful => by
    have htail := addTokens_tokensAll nodes outer (q.push node) rest
      (fun v hv => hValues v (mem_valuesAll_cons.mpr (.inr hv)))
      (by simpa [push] using hLawful.2.2)
    rw [mapValuesAll, tokensAll, List.append_assoc,
      addTokens_tokens node outer q _
        (fun v hv => hValues v (mem_valuesAll_cons.mpr (.inl hv))) hLawful.1
        hLawful.2.1, htail]
    simp [push]

end

end Node
end PaperSearch
