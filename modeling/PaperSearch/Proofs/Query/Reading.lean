import Mathlib.Logic.Relation
import PaperSearch.Proofs.Query.Parens
import PaperSearch.Proofs.Query.Saying

/-!
# How the reading of a text ends

Parentheses and brackets are looked at first, in the whole text, and words only then. A scan that
succeeds leaves tokens that close what they open, so that reading them never finds a parenthesis
without its partner; what can still go wrong is a word.

* `Reading`: a place in reading tokens, and `Reading.Step`, the next place.
* `not_unbalanced_of_steps`: no place that is reached lacks a parenthesis.
* `ofTokens_of_closes`: reading ends well, or with the fault of the leftmost word that has one.
* `parse_ends`: the four ways in which reading a text can end, and which of them does.
-/

namespace PaperSearch

open Token

namespace Query

/-- The word says something in a query of its own. -/
def Speaks (w : List Char) : Prop :=
  ∃ q, Query.empty.addWord w = .ok q

/-- Why a token is refused in a query of its own. Parentheses are not. -/
def fault? : Token → Option ParseError
  | .word w =>
    match Query.empty.addWord w with
    | .ok _ => none
    | .error e => some e
  | _ => none

theorem fault?_eq_none_iff {w : List Char} : fault? (.word w) = none ↔ Speaks w := by
  rw [fault?, Speaks]
  cases h : Query.empty.addWord w <;> simp

/-- A word without a fault is added to every query. -/
theorem exists_addWord_of_fault? {w : List Char} (h : fault? (.word w) = none) (q : Query) :
    ∃ r, q.addWord w = .ok r := by
  obtain ⟨said, -, hadd⟩ | ⟨e, hrefused⟩ := addWord_says w
  · exact ⟨q.add said, hadd q⟩
  · rw [fault?, hrefused] at h
    cases h

/-- A word has the same fault in every query. -/
theorem addWord_of_fault? {w : List Char} {e : ParseError} (h : fault? (.word w) = some e)
    (q : Query) : q.addWord w = .error e := by
  obtain ⟨said, -, hadd⟩ | ⟨e', hrefused⟩ := addWord_says w
  · rw [fault?, hadd] at h
    cases h
  · rw [fault?, hrefused] at h
    rw [hrefused, Option.some.inj h]

/-! ## Places in reading -/

/-- A place in reading tokens: the queries around the open groups, the innermost first, the query
that is being read, and the tokens that are left. -/
structure Reading where
  outer : List Query
  query : Query
  tokens : List Token

namespace Reading

def start (tokens : List Token) : Reading :=
  ⟨[], .empty, tokens⟩

/-- What reading on from here gives. -/
def result (r : Reading) : Except ParseError Query :=
  addTokens r.outer r.query r.tokens

/-- The next token is read. -/
inductive Step : Reading → Reading → Prop
  | opening {outer : List Query} {q : Query} {tokens : List Token} :
      Step ⟨outer, q, .opening :: tokens⟩ ⟨q :: outer, .empty, tokens⟩
  | closing {around : Query} {outer : List Query} {q : Query} {tokens : List Token} :
      Step ⟨around :: outer, q, .closing :: tokens⟩ ⟨outer, around.group q, tokens⟩
  | word {outer : List Query} {q next : Query} {w : List Char} {tokens : List Token}
      (h : q.addWord w = .ok next) : Step ⟨outer, q, .word w :: tokens⟩ ⟨outer, next, tokens⟩

/-- Reading ends here for want of a parenthesis: a group is open and nothing is left, or a group
is closed and none is open. -/
def Unbalanced (r : Reading) : Prop :=
  r.tokens = [] ∧ r.outer ≠ [] ∨ r.tokens.head? = some .closing ∧ r.outer = []

/-- What is left closes the groups that are open. -/
def Balanced (r : Reading) : Prop :=
  Closes r.outer.length r.tokens

theorem Step.result_eq {r r' : Reading} (h : Step r r') : r.result = r'.result := by
  cases h with
  | opening => rfl
  | closing => rfl
  | word h => simp only [result, addTokens, h]

theorem Step.balanced {r r' : Reading} (h : Step r r') (hr : r.Balanced) : r'.Balanced := by
  cases h with
  | opening => exact closes_opening.mp hr
  | closing => exact closes_closing.mp hr
  | word _ => exact closes_word.mp hr

theorem Balanced.not_unbalanced {r : Reading} (h : r.Balanced) : ¬ r.Unbalanced := by
  obtain ⟨outer, q, tokens⟩ := r
  rintro (⟨rfl, houter⟩ | ⟨hhead, rfl⟩)
  · exact houter (List.length_eq_zero_iff.mp (closes_nil.mp h))
  · obtain ⟨rest, rfl⟩ := List.head?_eq_some_iff.mp hhead
    exact closes_closing_zero h

/-- No place that reading comes to wants a parenthesis. -/
theorem not_unbalanced_of_steps {r r' : Reading} (hr : r.Balanced)
    (h : Relation.ReflTransGen Step r r') : ¬ r'.Unbalanced := by
  have hbalanced : r'.Balanced := by
    induction h with
    | refl => exact hr
    | tail _ hstep ih => exact hstep.balanced ih
  exact hbalanced.not_unbalanced

theorem result_eq_of_steps {r r' : Reading} (h : Relation.ReflTransGen Step r r') :
    r.result = r'.result := by
  induction h with
  | refl => rfl
  | tail _ hstep ih => exact ih.trans hstep.result_eq

/-- Reading ends with the fault of the leftmost word that has one, and otherwise with a query and
with nothing left. -/
theorem ends_of_balanced {outer : List Query} {q : Query} {tokens : List Token}
    (h : Reading.Balanced ⟨outer, q, tokens⟩) :
    (∃ e, tokens.findSome? fault? = some e ∧ addTokens outer q tokens = .error e) ∨
      tokens.findSome? fault? = none ∧
        ∃ answer, Relation.ReflTransGen Step ⟨outer, q, tokens⟩ ⟨[], answer, []⟩ := by
  induction tokens generalizing outer q with
  | nil =>
    have houter : outer = [] := List.length_eq_zero_iff.mp (closes_nil.mp h)
    exact Or.inr ⟨rfl, q, houter ▸ .refl⟩
  | cons token tokens ih =>
    -- a step that is taken leaves the rest to the hypothesis
    have onward : ∀ {next : Reading}, Step ⟨outer, q, token :: tokens⟩ next →
        next.tokens = tokens → fault? token = none →
        (∃ e, (token :: tokens).findSome? fault? = some e ∧
          addTokens outer q (token :: tokens) = .error e) ∨
        (token :: tokens).findSome? fault? = none ∧
          ∃ answer, Relation.ReflTransGen Step ⟨outer, q, token :: tokens⟩ ⟨[], answer, []⟩ := by
      rintro ⟨outer', q', _⟩ hstep rfl hfault
      rw [List.findSome?_cons, hfault]
      obtain ⟨e, hfirst, herror⟩ | ⟨hnone, answer, hsteps⟩ := ih (hstep.balanced h)
      · exact Or.inl ⟨e, hfirst, hstep.result_eq.trans herror⟩
      · exact Or.inr ⟨hnone, answer, hsteps.head hstep⟩
    cases token with
    | opening => exact onward .opening rfl rfl
    | closing =>
      cases outer with
      | nil => exact absurd h closes_closing_zero
      | cons around outer => exact onward .closing rfl rfl
    | word w =>
      cases hfault : fault? (.word w) with
      | none =>
        obtain ⟨next, hnext⟩ := exists_addWord_of_fault? hfault q
        exact onward (.word hnext) rfl hfault
      | some e =>
        refine Or.inl ⟨e, ?_, ?_⟩
        · rw [List.findSome?_cons, hfault]
        · simp only [addTokens, addWord_of_fault? hfault q]

end Reading

/-! ## Whole texts -/

/-- Balanced tokens are read as a query exactly when reading takes all of them, and that is when
every word says something; otherwise the fault of the leftmost other word is the answer. -/
theorem ofTokens_of_closes {tokens : List Token} (h : Closes 0 tokens) :
    (∀ q, ofTokens tokens = .ok q ↔
      Relation.ReflTransGen Reading.Step (.start tokens) ⟨[], q, []⟩) ∧
    ((∃ q, ofTokens tokens = .ok q) ↔ ∀ w, .word w ∈ tokens → Speaks w) ∧
    ∀ e, ofTokens tokens = .error e ↔ tokens.findSome? fault? = some e := by
  have hwords : tokens.findSome? fault? = none ↔ ∀ w, .word w ∈ tokens → Speaks w := by
    rw [List.findSome?_eq_none_iff]
    constructor
    · intro hnone w hw
      exact fault?_eq_none_iff.mp (hnone _ hw)
    · intro hspeaks token htoken
      cases token with
      | word w => exact fault?_eq_none_iff.mpr (hspeaks w htoken)
      | opening => rfl
      | closing => rfl
  have hbalanced : Reading.Balanced ⟨[], .empty, tokens⟩ := h
  obtain ⟨e, hfirst, herror⟩ | ⟨hnone, answer, hsteps⟩ := Reading.ends_of_balanced hbalanced
  · have hresult : ofTokens tokens = .error e := herror
    refine ⟨fun q => ⟨?_, fun hsteps => ?_⟩, ?_, fun e' => ?_⟩
    · rw [hresult]
      exact nofun
    · exact (Reading.result_eq_of_steps hsteps)
    · rw [← hwords, hfirst, hresult]
      simp
    · rw [hresult, hfirst]
      simp
  · have hresult : ofTokens tokens = .ok answer := Reading.result_eq_of_steps hsteps
    refine ⟨fun q => ⟨?_, fun hsteps => ?_⟩, ?_, fun e' => ?_⟩
    · rw [hresult]
      intro heq
      cases heq
      exact hsteps
    · exact (Reading.result_eq_of_steps hsteps)
    · rw [← hwords, hnone, hresult]
      simp
    · rw [hresult, hnone]
      simp

/-- **How reading a text ends.** Of the characters outside brackets, a `)` that closes nothing comes
first; then a bracket that is open at the end of the text; then a `(` that is not closed. In a text
without these faults the tokens are balanced, reading comes to no place where a parenthesis is
wanting, and it ends with a query and with no token left exactly when every word says something in
a query of its own. Otherwise its error is that of the leftmost word that does not. -/
theorem parse_ends (s : String) :
    let text := s.toList
    let parens := outside false text
    (Stray 0 parens ∧ parse s = .error .unbalancedParens) ∨
    (¬ Stray 0 parens ∧ endsInside false text = true ∧
      ∃ word, word <:+ text ∧ parse s = .error (.unterminatedBracket (String.ofList word))) ∨
    (¬ Stray 0 parens ∧ endsInside false text = false ∧ parens.count ')' < parens.count '(' ∧
      parse s = .error .unbalancedParens) ∨
    (¬ Stray 0 parens ∧ endsInside false text = false ∧ parens.count ')' = parens.count '(' ∧
      ∃ tokens, scan text = .ok tokens ∧ Closes 0 tokens ∧
        (∀ r, Relation.ReflTransGen Reading.Step (.start tokens) r → ¬ r.Unbalanced) ∧
        (∀ q, parse s = .ok q ↔
          Relation.ReflTransGen Reading.Step (.start tokens) ⟨[], q, []⟩) ∧
        ((∃ q, parse s = .ok q) ↔ ∀ w, .word w ∈ tokens → Speaks w) ∧
        ∀ e, parse s = .error e ↔ tokens.findSome? fault? = some e) := by
  intro text parens
  have hscanned : Scanned 0 parens (endsInside false text) text (scan text) := scanned_scan text
  cases hscan : scan text with
  | error e =>
    have hparse : parse s = .error e := by rw [parse, hscan]
    rw [hscan] at hscanned
    rw [hparse]
    cases hscanned with
    | stray h => exact Or.inl ⟨h, rfl⟩
    | @unterminated word h hInside hWord => exact Or.inr (Or.inl ⟨h, hInside, word, hWord, rfl⟩)
    | unclosed h hInside hCount =>
      rw [Nat.zero_add] at hCount
      exact Or.inr (Or.inr (Or.inl ⟨h, hInside, hCount, rfl⟩))
  | ok tokens =>
    have hparse : parse s = ofTokens tokens := by rw [parse, hscan]
    rw [hscan] at hscanned
    rw [hparse]
    cases hscanned with
    | tokens h hInside hCount hCloses =>
      rw [Nat.zero_add] at hCount
      have hnever : ∀ r, Relation.ReflTransGen Reading.Step (.start tokens) r → ¬ r.Unbalanced :=
        fun r hsteps => Reading.not_unbalanced_of_steps (r := .start tokens) hCloses hsteps
      exact Or.inr (Or.inr (Or.inr
        ⟨h, hInside, hCount, tokens, rfl, hCloses, hnever, ofTokens_of_closes hCloses⟩))

end Query
end PaperSearch
