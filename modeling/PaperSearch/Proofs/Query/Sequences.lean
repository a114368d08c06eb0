import PaperSearch.Proofs.Query.Stable

/-!
# What every query keeps

A query comes from building steps, from a text that is read, or from both in any order, with
groups of such queries inside it (`Query.Obtained`). Every sequence of nodes in it, at whatever
depth (`Query.HasSequence`), is orderly: `Query.Obtained.orderly`.

Reading a text adds nothing to what can be built (`Query.Obtained.built`), and `Lawful`, which
speaks of a query and all that is in it at once, is handed down from a sequence to the groups in
it.
-/

namespace PaperSearch

namespace Query

/-- The query is made by building steps and by reading texts, in any order; so are its groups. -/
inductive Obtained : Query → Prop where
  | empty : Obtained .empty
  | parse {s : String} {q : Query} (h : Query.parse s = .ok q) : Obtained q
  | term {q : Query} (field : Field) (value : String) (h : Obtained q) :
      Obtained (q.term field value)
  | operator {q : Query} (op : Operator) (h : Obtained q) : Obtained (q.operator op)
  | group {q inner : Query} (h : Obtained q) (hInner : Obtained inner) : Obtained (q.group inner)
  | dateRange {q : Query} (field : DateField) (first last : Time.Instant) (h : Obtained q) :
      Obtained (q.dateRange field first last)

/-- The nodes stand side by side in the query: at its top level, or in a group at any depth. -/
inductive HasSequence (q : Query) : List Node → Prop where
  | top : HasSequence q q.nodes
  | group {nodes inner : List Node} (h : HasSequence q nodes) (hmem : .group inner ∈ nodes) :
      HasSequence q inner

end Query

/-- A sequence of nodes as it may stand in a query. -/
structure Node.Orderly (nodes : List Node) : Prop where
  not_operator_first : ∀ op rest, nodes ≠ .operator op :: rest
  group_ne_nil : ∀ inner, .group inner ∈ nodes → inner ≠ []
  /-- A date range comes first or follows an operator. -/
  range_joined : ∀ before field first last after,
    nodes = before ++ .range field first last :: after →
      before = [] ∨ ∃ op, before.getLast? = some (.operator op)
  /-- Both ends of a date range are whole minutes of years with four digits. -/
  range_minutes : ∀ field first last, .range field first last ∈ nodes → ∀ t ∈ [first, last],
    t.second = 0 ∧ t.nanos = 0 ∧ 0 ≤ t.date.year ∧ t.date.year ≤ 9999

theorem Time.Instant.IsWire.second_eq_zero {t : Time.Instant} (h : t.IsWire) : t.second = 0 := by
  have hs := h.whole_minute
  simp only [second, secondOfDay]
  omega

namespace Node

/-- What a node of a lawful sequence may be, given the node before it. -/
theorem lawful_of_lawfulAfter {prior : Option Node} {before after : List Node} {node : Node}
    (h : LawfulAfter prior (before ++ node :: after)) :
    node.Fits (before.getLast?.or prior) ∧ node.Lawful := by
  have hprefix : LawfulAfter prior (before ++ [node]) := by
    induction before generalizing prior with
    | nil => exact ⟨h.1, h.2.1, trivial⟩
    | cons first before ih => exact ⟨h.1, h.2.1, ih h.2.2⟩
  exact (lawfulAfter_concat.mp hprefix).2

theorem lawful_of_mem {prior : Option Node} {nodes : List Node} {node : Node}
    (h : LawfulAfter prior nodes) (hmem : node ∈ nodes) : node.Lawful := by
  obtain ⟨before, after, rfl⟩ := List.append_of_mem hmem
  exact (lawful_of_lawfulAfter h).2

theorem orderly_of_lawfulAfter {nodes : List Node} (h : LawfulAfter none nodes) :
    Orderly nodes where
  not_operator_first := by
    rintro op rest rfl
    exact h.1 rfl
  group_ne_nil inner hmem := (lawful_of_mem h hmem).1
  range_joined := by
    rintro before field first last after rfl
    have hFits := (lawful_of_lawfulAfter h).1
    rw [Option.or_none] at hFits
    cases hlast : before.getLast? with
    | none => exact Or.inl (List.getLast?_eq_none_iff.mp hlast)
    | some node =>
      have hoperator : node.isOperator = true := hFits node hlast
      cases node with
      | operator op => exact Or.inr ⟨op, rfl⟩
      | term | group | range => cases hoperator
  range_minutes field first last hmem t ht := by
    have hwire : t.IsWire := by
      obtain ⟨hfirst, hlast⟩ := lawful_of_mem h hmem
      simp only [List.mem_cons, List.not_mem_nil, or_false] at ht
      rcases ht with rfl | rfl
      · exact hfirst
      · exact hlast
    exact ⟨hwire.second_eq_zero, hwire.no_nanos, hwire.first_year, hwire.last_year⟩

end Node

namespace Query

/-- Whatever is obtained with reading can also be built without it. -/
theorem Obtained.built {q : Query} (h : q.Obtained) : q.Built := by
  induction h with
  | empty => exact .empty
  | parse h => exact (built_of_parse h).1
  | term field value _ ih => exact ih.term field value
  | operator op _ ih => exact ih.operator op
  | group _ _ ih ihInner => exact ih.group ihInner
  | dateRange field first last _ ih => exact ih.dateRange field first last

theorem lawfulAfter_of_hasSequence {q : Query} (hq : q.Lawful) {nodes : List Node}
    (h : q.HasSequence nodes) : Node.LawfulAfter none nodes := by
  induction h with
  | top => exact hq
  | group _ hmem ih => exact (Node.lawful_of_mem ih hmem).2

/-- **What every query keeps.** However a query was obtained, no sequence of nodes in it starts
with an operator, no group in it is empty, and every date range comes first or follows an operator
and lies between whole minutes of the years 0 to 9999. -/
theorem Obtained.orderly {q : Query} (h : q.Obtained) {nodes : List Node}
    (hnodes : q.HasSequence nodes) : Node.Orderly nodes :=
  Node.orderly_of_lawfulAfter (lawfulAfter_of_hasSequence h.built.lawful hnodes)

/-- The group of a query that was read, with a step after it and the whole in a group again. -/
theorem Obtained.orderly_wrapped :
    let read : Query := ⟨[.group [.term .all "x"]]⟩
    let inner := (read.operator .or).dateRange .submitted .firstWire .lastWire
    let q := Query.empty.group inner
    Query.parse "AND (or all:x)" = .ok read ∧ q.HasSequence inner.nodes ∧
      q.HasSequence [.term .all "x"] ∧ Node.Orderly inner.nodes ∧
      Node.Orderly [.term .all "x"] := by
  intro read inner q
  have hread : Query.parse "AND (or all:x)" = .ok read := rfl
  have hq : q.Obtained := .group .empty (.dateRange _ _ _ (.operator _ (.parse hread)))
  have hinner : q.HasSequence inner.nodes := .group .top (List.mem_singleton_self _)
  have hx : q.HasSequence [.term .all "x"] := .group hinner List.mem_cons_self
  exact ⟨hread, hinner, hx, hq.orderly hinner, hq.orderly hx⟩

end Query
end PaperSearch
