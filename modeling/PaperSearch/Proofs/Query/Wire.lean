import PaperSearch.Proofs.Query.Built
import PaperSearch.Proofs.Query.Scan

/-!
# Tokens of a query's wire form

The tokens of a node's text are known beforehand: one word, or the tokens of a group between
parentheses. `scanFrom_wire` says that a scan finds exactly these, wherever the node stands, when
the values in it stay open. The space between two nodes never belongs to a value, because each
node begins with something that ends values (`endsValue_wire`).
-/

namespace PaperSearch

open Token

/-! ## Fixed words -/

theorem Field.isPlain_code (field : Field) : ∀ c ∈ field.code, isPlain c = true := by
  apply List.all_eq_true.mp
  cases field <;> rfl

theorem DateField.isPlain_name (field : DateField) : ∀ c ∈ field.name, isPlain c = true := by
  apply List.all_eq_true.mp
  cases field <;> rfl

theorem Operator.isPlain_keyword (op : Operator) : ∀ c ∈ op.keyword, isPlain c = true := by
  apply List.all_eq_true.mp
  cases op <;> rfl

theorem Operator.ofKeyword?_keyword (op : Operator) : ofKeyword? op.keyword = some op := by
  cases op <;> decide

namespace Token

/-- Visible characters of ASCII are plain but for the four that mean something. -/
theorem isPlain_of_toNat {c : Char} (h : 32 < c.toNat ∧ c.toNat < 128)
    (hne : c.toNat ≠ 40 ∧ c.toNat ≠ 41 ∧ c.toNat ≠ 58 ∧ c.toNat ≠ 91) : isPlain c = true := by
  have hblank : Text.isBlank c = false := by
    simp [Text.isBlank, Text.inRanges, Text.blankRanges]
    omega
  have hchar : ∀ d : Char, c.toNat ≠ d.toNat → c ≠ d := by
    rintro d hd rfl
    exact hd rfl
  simp [isPlain, isParen, hblank, hchar '(' hne.1, hchar ')' hne.2.1, hchar ':' hne.2.2.1,
    hchar '[' hne.2.2.2]

theorem isPlain_of_isDigit {c : Char} (h : Text.isDigit c = true) : isPlain c = true := by
  simp only [Text.isDigit, Bool.and_eq_true, decide_eq_true_eq] at h
  exact isPlain_of_toNat (by omega) (by omega)

theorem isWordChar_of_isPlain {c : Char} (h : isPlain c = true) :
    (!Text.isBlank c && !isParen c) = true := by
  simp only [isPlain, Bool.and_eq_true] at h
  simp [h.1.1]

/-- A bracket that is closed at the end of a text stays open as a value. -/
theorem staysOpen_bracketed {s : List Char} (h : ∀ c ∈ s, c ≠ ']') :
    staysOpen false ('[' :: s ++ [']']) = true := by
  rw [List.cons_append, staysOpen, if_pos rfl]
  induction s with
  | nil => rfl
  | cons c s ih =>
    have hc : (c != ']') = true := by simpa using h c List.mem_cons_self
    rw [List.cons_append, staysOpen, hc]
    exact ih (fun d hd => h d (List.mem_cons_of_mem c hd))

/-- A value of plain characters stays open. -/
theorem staysOpen_of_isPlain {s : List Char} (h : ∀ c ∈ s, isPlain c = true) :
    staysOpen false s = true := by
  induction s with
  | nil => rfl
  | cons c s ih =>
    have hc := h c List.mem_cons_self
    simp only [isPlain, Bool.and_eq_true, Bool.not_eq_true', bne_iff_ne] at hc
    obtain ⟨⟨⟨hblank, hparen⟩, hs⟩, -⟩ := hc
    rw [staysOpen, if_neg hs, ih (fun d hd => h d (List.mem_cons_of_mem c hd))]
    simp [hblank, hparen]

/-- A word made of a plain name, a colon and a value is one token. -/
theorem scanFrom_named {name value rest : List Char} (hName : ∀ c ∈ name, isPlain c = true)
    (hValue : staysOpen false value = true) (hEnd : EndsWord rest) (depth : Nat) :
    scanFrom (.clear depth) (name ++ ':' :: value ++ rest) =
      (scanFrom (.clear depth) rest).map fun ts => .word (name ++ ':' :: value) :: ts := by
  rw [List.append_assoc, scanFrom_plain hName _ (Position.clear_inBracket depth),
    List.cons_append, scanFrom_colon rfl, scanFrom_value hEnd rfl hValue,
    scanFrom_endsWord rfl (by simp [Position.grow]) hEnd]
  simp [Position.grow, Position.clear]

/-- A plain word is one token. -/
theorem scanFrom_word {w rest : List Char} (hPlain : ∀ c ∈ w, isPlain c = true) (hne : w ≠ [])
    (hEnd : EndsWord rest) (depth : Nat) :
    scanFrom (.clear depth) (w ++ rest) =
      (scanFrom (.clear depth) rest).map fun ts => .word w :: ts := by
  rw [scanFrom_plain hPlain _ (Position.clear_inBracket depth),
    scanFrom_endsWord rfl (by simpa [Position.clear] using hne) hEnd]
  simp [Position.clear]

end Token

/-! ## What begins a node ends a value -/

/-- A word that begins with something plain, looked at from before it. -/
theorem Token.endsValue_plain {w rest : List Char} (hPlain : ∀ c ∈ w, isPlain c = true)
    (hne : w ≠ []) :
    endsValue (w ++ rest) =
      ((Operator.ofKeyword? (w ++ rest.takeWhile fun d => !Text.isBlank d && !isParen d)).isSome ||
        (w ++ rest.takeWhile fun d => !Text.isBlank d && !isParen d).contains ':') := by
  have hWord : ∀ c ∈ w, (!Text.isBlank c && !isParen c) = true := fun c hc =>
    isWordChar_of_isPlain (hPlain c hc)
  cases w with
  | nil => exact absurd rfl hne
  | cons c w =>
    have hc := hWord c List.mem_cons_self
    simp only [Bool.and_eq_true, Bool.not_eq_true'] at hc
    rw [← List.takeWhile_append_of_pos hWord]
    simp only [endsValue, List.cons_append]
    rw [List.dropWhile_cons, if_neg (by simp [hc.1])]
    simp [hc.2]

theorem Token.endsValue_named {name : List Char} (hName : ∀ c ∈ name, isPlain c = true)
    (hne : name ≠ []) (rest : List Char) : endsValue (name ++ ':' :: rest) = true := by
  have hcolon : (!Text.isBlank ':' && !isParen ':') = true := by decide
  rw [endsValue_plain hName hne, List.takeWhile_cons, if_pos hcolon]
  simp

theorem Field.code_ne_nil (field : Field) : field.code ≠ [] := by
  cases field <;> decide

theorem DateField.name_ne_nil (field : DateField) : field.name ≠ [] := by
  cases field <;> decide

theorem Operator.keyword_ne_nil (op : Operator) : op.keyword ≠ [] := by
  cases op <;> decide

namespace Node

/-- Every node begins with something that ends a value before it. -/
theorem endsValue_wire (node : Node) {rest : List Char} (hEnd : EndsWord rest) :
    endsValue (node.wire ++ rest) = true := by
  cases node with
  | term field value =>
    rw [wire, List.append_assoc]
    exact endsValue_named field.isPlain_code field.code_ne_nil _
  | operator op =>
    have hnil : (rest.takeWhile fun d => !Text.isBlank d && !isParen d) = [] := by
      simpa using takeWhile_append_of_head (s := []) hEnd.head
    rw [wire, endsValue_plain op.isPlain_keyword op.keyword_ne_nil, hnil, List.append_nil,
      op.ofKeyword?_keyword]
    rfl
  | group nodes =>
    have hblank : ¬ Text.isBlank '(' = true := by decide
    rw [wire, List.cons_append, List.cons_append, endsValue, List.dropWhile_cons, if_neg hblank]
    rfl
  | range field first last =>
    simp only [wire, List.append_assoc]
    exact endsValue_named field.isPlain_name field.name_ne_nil _

/-! ## Tokens -/

mutual

/-- The tokens of the node's text. -/
def tokens : Node → List Token
  | group nodes => .opening :: tokensAll nodes ++ [.closing]
  | term field value => [.word (term field value).wire]
  | operator op => [.word (operator op).wire]
  | range field first last => [.word (range field first last).wire]

def tokensAll : List Node → List Token
  | [] => []
  | node :: rest => node.tokens ++ tokensAll rest

end

/-- What stands after the colon of a date range. -/
def bracketed (first last : Time.Instant) : List Char :=
  '[' :: (first.wireDigits ++ " TO ".toList ++ last.wireDigits) ++ [']']

theorem wire_range (field : DateField) (first last : Time.Instant) :
    (range field first last).wire = field.name ++ ':' :: bracketed first last := by
  simp [wire, bracketed]

/-- The brackets of a date range stay open as a value. -/
theorem staysOpen_range {first last : Time.Instant} (hFirst : first.IsWire) (hLast : last.IsWire) :
    staysOpen false (bracketed first last) = true := by
  have hdigit : ∀ c, Text.isDigit c = true → c ≠ ']' := by
    rintro c hc rfl
    revert hc
    decide
  apply staysOpen_bracketed
  intro c hc
  simp only [List.mem_append] at hc
  rcases hc with (hc | hc) | hc
  · exact hdigit c (Time.Instant.isDigit_of_mem_wireDigits hFirst hc)
  · rintro rfl
    exact absurd hc (by decide)
  · exact hdigit c (Time.Instant.isDigit_of_mem_wireDigits hLast hc)

theorem wireAll_cons_cons (node next : Node) (nodes : List Node) :
    wireAll (node :: next :: nodes) = node.wire ++ ' ' :: wireAll (next :: nodes) := by
  rw [wireAll]
  simp

/-- The text of several nodes after the first goes on with a space that ends words. -/
theorem endsWord_wireAll {node : Node} {nodes : List Node} {rest : List Char}
    (hEnd : EndsWord rest) : EndsWord (' ' :: (wireAll (node :: nodes) ++ rest)) := by
  induction nodes generalizing node with
  | nil => exact endsWord_space (node.endsValue_wire hEnd)
  | cons next nodes ih =>
    rw [wireAll_cons_cons, List.append_assoc]
    exact endsWord_space (node.endsValue_wire ih)

mutual

/-- A scan finds the tokens of a node whose values stay open. -/
theorem scanFrom_wire : ∀ (node : Node) {rest : List Char} (depth : Nat),
    (∀ v ∈ node.values, staysOpen false v.toList = true) → node.Lawful → EndsWord rest →
      scanFrom (.clear depth) (node.wire ++ rest) =
        (scanFrom (.clear depth) rest).map fun ts => node.tokens ++ ts
  | term field value, rest, depth, hValues, _, hEnd => by
    rw [tokens, wire]
    exact scanFrom_named field.isPlain_code (hValues value (by simp [values])) hEnd depth
  | operator op, rest, depth, _, _, hEnd => by
    rw [tokens, wire]
    exact scanFrom_word op.isPlain_keyword op.keyword_ne_nil hEnd depth
  | range field first last, rest, depth, _, hLawful, hEnd => by
    rw [tokens, wire_range]
    exact scanFrom_named field.isPlain_name (staysOpen_range hLawful.1 hLawful.2) hEnd depth
  | group nodes, rest, depth, hValues, hLawful, hEnd => by
    have hinner := scanFrom_wireAll nodes none (depth + 1) hValues hLawful.2
      (endsWord_closing rest)
    rw [scanFrom_closing (Position.clear_inBracket _) (by simp)] at hinner
    rw [tokens, wire, List.cons_append, List.cons_append, List.append_assoc,
      scanFrom_opening (Position.clear_inBracket depth), List.singleton_append,
      Position.clear_depth, hinner, map_map, map_map]
    simp

theorem scanFrom_wireAll : ∀ (nodes : List Node) {rest : List Char} (before : Option Node)
    (depth : Nat), (∀ v ∈ valuesAll nodes, staysOpen false v.toList = true) →
      LawfulAfter before nodes → EndsWord rest →
      scanFrom (.clear depth) (wireAll nodes ++ rest) =
        (scanFrom (.clear depth) rest).map fun ts => tokensAll nodes ++ ts
  | [], rest, before, depth, _, _, _ => by
    exact (congrFun Except.map_id _).symm
  | [node], rest, before, depth, hValues, hLawful, hEnd => by
    rw [wireAll, tokensAll, tokensAll, List.append_nil]
    exact scanFrom_wire node depth (fun v hv => hValues v (mem_valuesAll_cons.mpr (.inl hv)))
      hLawful.2.1 hEnd
  | node :: next :: nodes, rest, before, depth, hValues, hLawful, hEnd => by
    have htail := scanFrom_wireAll (next :: nodes) (some node) depth
      (fun v hv => hValues v (mem_valuesAll_cons.mpr (.inr hv))) hLawful.2.2 hEnd
    rw [wireAll_cons_cons, tokensAll, List.append_assoc, List.cons_append,
      scanFrom_wire node depth
        (fun v hv => hValues v (mem_valuesAll_cons.mpr (.inl hv))) hLawful.2.1
        (endsWord_wireAll hEnd),
      scanFrom_clear_space, htail, map_map]
    simp

end

end Node
end PaperSearch
