import PaperSearch.Proofs.Query.Replay

/-!
# What words say

A word says an operator, a date range or a term, or it is refused, and which of these does not
depend on the query that it is added to (`addWord_says`).
-/

namespace PaperSearch

/-! ## Names and splits read back -/

theorem Field.eq_code_of_parse {name : List Char} {field : Field}
    (h : Field.parse (String.ofList name) = .ok field) : name = field.code := by
  rw [Field.parse, String.toList_ofList] at h
  split at h
  · rename_i found hfound
    cases h
    unfold Field.ofCode? at hfound
    repeat' split at hfound
    all_goals first | (cases hfound; assumption) | cases hfound
  · cases h

theorem DateField.eq_name_of_ofName? {name : List Char} {field : DateField}
    (h : DateField.ofName? name = some field) : name = field.name := by
  unfold DateField.ofName? at h
  repeat' split at h
  all_goals first | (cases h; assumption) | cases h

namespace Query

theorem eq_of_splitFirst? {c : Char} {text before after : List Char}
    (h : splitFirst? c text = some (before, after)) : text = before ++ c :: after := by
  induction text generalizing before with
  | nil => cases h
  | cons d text ih =>
    rw [splitFirst?] at h
    split at h
    · rename_i heq
      cases h
      rw [heq, List.nil_append]
    · obtain ⟨⟨first, second⟩, hsplit, hpair⟩ := Option.map_eq_some_iff.mp h
      cases hpair
      rw [ih hsplit, List.cons_append]

/-! ## Words -/

/-- What a word can say. -/
inductive Saying where
  | operator (op : Operator)
  | range (field : DateField) (first last : Time.Instant)
  | term (field : Field) (value : String)

/-- The query with what a word says added to it. -/
def add (q : Query) : Saying → Query
  | .operator op => q.operator op
  | .range field first last => q.dateRange field first last
  | .term field value => q.term field value

/-- The word says this. -/
inductive Says : List Char → Saying → Prop
  | operator {w : List Char} {op : Operator} (h : Operator.ofKeyword? w = some op) :
      Says w (.operator op)
  | range (field : DateField) {raw : List Char} {first last : Time.Instant}
      (h : parseDateRange raw = .ok (first, last)) :
      Says (field.name ++ ':' :: raw) (.range field first last)
  | term (field : Field) {raw value : List Char} (h : Text.Percent.decode? raw = some value) :
      Says (field.code ++ ':' :: raw) (.term field (String.ofList value))

theorem addWord_of_says {w : List Char} {said : Saying} (h : Says w said) (q : Query) :
    q.addWord w = .ok (q.add said) := by
  cases h with
  | operator h => simp only [addWord, h, add]
  | range field h =>
    rw [addWord_dateField, h]
    rfl
  | term field h => exact addWord_term q field (by rw [h, String.toList_ofList])

/-- A word says the same to every query, or is refused by all of them in the same way. -/
theorem addWord_says (w : List Char) :
    (∃ said, Says w said ∧ ∀ q : Query, q.addWord w = .ok (q.add said)) ∨
      ∃ e, ∀ q : Query, q.addWord w = .error e := by
  cases hkeyword : Operator.ofKeyword? w with
  | some op =>
    exact Or.inl ⟨.operator op, .operator hkeyword, addWord_of_says (.operator hkeyword)⟩
  | none =>
    cases hsplit : splitFirst? ':' w with
    | none =>
      refine Or.inr ⟨.malformedToken (String.ofList w), fun q => ?_⟩
      simp only [addWord, hkeyword, hsplit]
    | some parts =>
      obtain ⟨name, raw⟩ := parts
      cases hempty : name.isEmpty with
      | true =>
        refine Or.inr ⟨.malformedToken (String.ofList w), fun q => ?_⟩
        simp only [addWord, hkeyword, hsplit, hempty, if_true]
      | false =>
        obtain rfl := eq_of_splitFirst? hsplit
        cases hdate : DateField.ofName? name with
        | some field =>
          obtain rfl := DateField.eq_name_of_ofName? hdate
          cases hrange : parseDateRange raw with
          | ok ends =>
            have hsays := Says.range field hrange
            exact Or.inl ⟨.range field ends.1 ends.2, hsays, addWord_of_says hsays⟩
          | error e =>
            refine Or.inr ⟨e, fun q => ?_⟩
            rw [addWord_dateField, hrange]
            rfl
        | none =>
          cases hfield : Field.parse (String.ofList name) with
          | error e =>
            refine Or.inr ⟨e, fun q => ?_⟩
            simp only [addWord, hkeyword, hsplit, hempty, hdate, hfield, Bool.false_eq_true,
              if_false]
          | ok field =>
            obtain rfl := Field.eq_code_of_parse hfield
            cases hdecode : Text.Percent.decode? raw with
            | some value =>
              have hsays := Says.term field hdecode
              exact Or.inl ⟨.term field (String.ofList value), hsays, addWord_of_says hsays⟩
            | none =>
              refine Or.inr ⟨.invalidEncoding (String.ofList raw), fun q => ?_⟩
              simp only [addWord, hkeyword, hsplit, hempty, hdate, hfield, hdecode,
                Bool.false_eq_true, if_false]

end Query
end PaperSearch
