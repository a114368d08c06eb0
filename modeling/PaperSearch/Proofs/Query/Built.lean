import PaperSearch.Proofs.Time.Wire
import PaperSearch.Query.Builder

/-!
# Queries that building steps make

`Query.Built` holds of the queries that chains of building steps make, groups built in the same
way included. `Query.Lawful` is what all of them have in common, at every depth: no sequence
starts with an operator, a date range comes first or follows an operator, no group is empty, and
date ranges hold wire instants. `Built.lawful` is the induction over the chain.

`Query.values` are the values of a query's terms at every depth, and `Query.mapValues` is the query
with other texts in their places.
-/

namespace PaperSearch

/-- The query is made by a chain of building steps. -/
inductive Query.Built : Query → Prop where
  | empty : Built .empty
  | term {q : Query} (field : Field) (value : String) (h : Built q) : Built (q.term field value)
  | operator {q : Query} (op : Operator) (h : Built q) : Built (q.operator op)
  | group {q inner : Query} (h : Built q) (hInner : Built inner) : Built (q.group inner)
  | dateRange {q : Query} (field : DateField) (first last : Time.Instant) (h : Built q) :
      Built (q.dateRange field first last)

/-! ## Lawful sequences -/

namespace Node

/-- The node may stand after what is before it in its sequence. -/
def Fits (before : Option Node) : Node → Prop
  | operator _ => before ≠ none
  | range _ _ _ => ∀ node ∈ before, node.isOperator = true
  | _ => True

mutual

/-- A node that building steps give. -/
def Lawful : Node → Prop
  | term _ _ => True
  | operator _ => True
  | group nodes => nodes ≠ [] ∧ LawfulAfter none nodes
  | range _ first last => first.IsWire ∧ last.IsWire

/-- Nodes that building steps add to a sequence, given the last node of it. -/
def LawfulAfter : Option Node → List Node → Prop
  | _, [] => True
  | before, node :: rest => node.Fits before ∧ node.Lawful ∧ LawfulAfter (some node) rest

end

theorem lawfulAfter_concat {before : Option Node} {nodes : List Node} {node : Node} :
    LawfulAfter before (nodes ++ [node]) ↔
      LawfulAfter before nodes ∧ node.Fits (nodes.getLast?.or before) ∧ node.Lawful := by
  induction nodes generalizing before with
  | nil => simp [LawfulAfter]
  | cons first rest ih =>
    have hlast : (first :: rest).getLast?.or before = rest.getLast?.or (some first) := by
      cases rest with
      | nil => simp
      | cons second rest => simp [List.getLast?_cons]
    simp only [List.cons_append, LawfulAfter, ih, hlast, and_assoc]

end Node

namespace Query

/-- Every sequence of nodes in the query is one that building steps give. -/
def Lawful (q : Query) : Prop :=
  Node.LawfulAfter none q.nodes

theorem lawful_push {q : Query} {node : Node} (h : q.Lawful)
    (hFits : node.Fits q.nodes.getLast?) (hNode : node.Lawful) : (q.push node).Lawful := by
  rw [Lawful, push, Node.lawfulAfter_concat, Option.or_none]
  exact ⟨h, hFits, hNode⟩

theorem isEmpty_eq_false_iff {q : Query} : q.isEmpty = false ↔ q.nodes ≠ [] := by
  simp [isEmpty]

theorem lawful_operator {q : Query} (op : Operator) (h : q.Lawful) : (q.operator op).Lawful := by
  unfold operator
  split
  · exact h
  · rename_i hne
    have hnodes := isEmpty_eq_false_iff.mp (Bool.eq_false_iff.mpr hne)
    exact lawful_push h (by simpa [Node.Fits] using hnodes) trivial

theorem lawful_group {q inner : Query} (h : q.Lawful) (hInner : inner.Lawful) :
    (q.group inner).Lawful := by
  unfold group
  split
  · exact h
  · rename_i hne
    exact lawful_push h trivial ⟨isEmpty_eq_false_iff.mp (Bool.eq_false_iff.mpr hne), hInner⟩

theorem endsOpen_eq_false_iff {q : Query} :
    q.endsOpen = false ↔ ∀ node ∈ q.nodes.getLast?, node.isOperator = true := by
  unfold endsOpen
  split
  · rename_i node hlast
    simp [hlast]
  · rename_i hlast
    simp [hlast]

theorem endsOpen_push (q : Query) (node : Node) : (q.push node).endsOpen = !node.isOperator := by
  simp [endsOpen, push]

theorem lawful_dateRange {q : Query} (field : DateField) (first last : Time.Instant)
    (h : q.Lawful) : (q.dateRange field first last).Lawful := by
  have hRange : (Node.range field first.toWire last.toWire).Lawful :=
    ⟨first.isWire_toWire, last.isWire_toWire⟩
  simp only [dateRange]
  split
  · rename_i hopen
    have hne : q.nodes ≠ [] := by
      intro hnil
      simp [endsOpen, hnil] at hopen
    have hAnd : (q.push (.operator .and)).Lawful :=
      lawful_push h (by simpa [Node.Fits] using hne) trivial
    exact lawful_push hAnd (endsOpen_eq_false_iff.mp (endsOpen_push q _)) hRange
  · rename_i hclosed
    exact lawful_push h (endsOpen_eq_false_iff.mp (Bool.eq_false_iff.mpr hclosed)) hRange

theorem Built.lawful {q : Query} (h : q.Built) : q.Lawful := by
  induction h with
  | empty => trivial
  | term field value _ ih => exact lawful_push ih trivial trivial
  | operator op _ ih => exact lawful_operator op ih
  | group _ _ ih ihInner => exact lawful_group ih ihInner
  | dateRange field first last _ ih => exact lawful_dateRange field first last ih

end Query

/-! ## Values -/

namespace Node

mutual

/-- The values of terms in the node, at every depth. -/
def values : Node → List String
  | term _ value => [value]
  | group nodes => valuesAll nodes
  | _ => []

def valuesAll : List Node → List String
  | [] => []
  | node :: rest => node.values ++ valuesAll rest

end

theorem mem_valuesAll_cons {node : Node} {nodes : List Node} {value : String} :
    value ∈ valuesAll (node :: nodes) ↔ value ∈ node.values ∨ value ∈ valuesAll nodes := by
  rw [valuesAll, List.mem_append]

mutual

/-- The node with other values in its terms, at every depth. -/
def mapValues (f : String → String) : Node → Node
  | term field value => term field (f value)
  | group nodes => group (mapValuesAll f nodes)
  | operator op => operator op
  | range field first last => range field first last

def mapValuesAll (f : String → String) : List Node → List Node
  | [] => []
  | node :: rest => node.mapValues f :: mapValuesAll f rest

end

mutual

theorem mapValues_id : ∀ node : Node, node.mapValues id = node
  | term _ _ => rfl
  | operator _ => rfl
  | range _ _ _ => rfl
  | group nodes => by rw [mapValues, mapValuesAll_id nodes]

theorem mapValuesAll_id : ∀ nodes : List Node, mapValuesAll id nodes = nodes
  | [] => rfl
  | node :: rest => by rw [mapValuesAll, mapValues_id node, mapValuesAll_id rest]

end

end Node

namespace Query

def values (q : Query) : List String :=
  Node.valuesAll q.nodes

def mapValues (f : String → String) (q : Query) : Query :=
  ⟨Node.mapValuesAll f q.nodes⟩

theorem mapValues_id (q : Query) : q.mapValues id = q := by
  rw [mapValues, Node.mapValuesAll_id]

end Query
end PaperSearch
