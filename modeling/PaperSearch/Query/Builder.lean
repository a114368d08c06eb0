import PaperSearch.Query.Node

/-!
# Building queries

Each step adds to the end of a query and keeps three rules: a sequence of nodes never starts with
an operator, a group is never empty, and a date range that does not come first follows an
operator.
-/

namespace PaperSearch.Query

open Time

/-- Adds a node as it is. -/
def push (q : Query) (node : Node) : Query :=
  ⟨q.nodes ++ [node]⟩

def term (q : Query) (field : Field) (value : String) : Query :=
  q.push (.term field value)

/-- Adds an operator, unless nothing stands before it. -/
def operator (q : Query) (op : Operator) : Query :=
  if q.isEmpty then q else q.push (.operator op)

/-- Adds another query in parentheses, unless it is empty. -/
def group (q inner : Query) : Query :=
  if inner.isEmpty then q else q.push (.group inner.nodes)

/-- Does the query end with a node that is no operator? -/
def endsOpen (q : Query) : Bool :=
  match q.nodes.getLast? with
  | some node => !node.isOperator
  | none => false

/-- Adds a date range, with an `AND` before it where no operator stands. Both ends are moved to
instants that the wire form can hold. -/
def dateRange (q : Query) (field : DateField) (first last : Instant) : Query :=
  let joined := if q.endsOpen then q.push (.operator .and) else q
  joined.push (.range field first.toWire last.toWire)

end PaperSearch.Query
