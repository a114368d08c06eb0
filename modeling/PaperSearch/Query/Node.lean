import PaperSearch.Query.Field
import PaperSearch.Text.Blank
import PaperSearch.Time.Wire

/-!
# Queries

A query is a sequence of nodes, applied strictly from left to right. Its wire form is the text
that is sent: the nodes with one space between neighbours. Values are not escaped in it.

* `Node.wire` is the wire form of a node.
* `Query.encode` is the wire form of a query.
-/

namespace PaperSearch

open Time

inductive Node where
  /-- The field must match the value. -/
  | term (field : Field) (value : String)
  /-- Joins the node before it to the node after it. -/
  | operator (op : Operator)
  /-- A query in parentheses. -/
  | group (nodes : List Node)
  /-- The date must lie between two instants, both included. -/
  | range (field : DateField) (first last : Instant)
  deriving Repr

namespace Node

def isOperator : Node → Bool
  | operator _ => true
  | _ => false

mutual

/-- The text of a node. -/
def wire : Node → List Char
  | term field value => field.code ++ ':' :: value.toList
  | operator op => op.keyword
  | group nodes => '(' :: wireAll nodes ++ [')']
  | range field first last =>
    field.name ++ ':' :: '[' :: first.wireDigits ++ " TO ".toList ++ last.wireDigits ++ [']']

/-- The texts of a sequence of nodes, with a space between neighbours. -/
def wireAll : List Node → List Char
  | [] => []
  | [node] => node.wire
  | node :: rest => node.wire ++ ' ' :: wireAll rest

end

mutual

def beq : Node → Node → Bool
  | term f v, term g w => f == g && v == w
  | operator a, operator b => a == b
  | group as, group bs => beqAll as bs
  | range f a b, range g c d => f == g && a == c && b == d
  | _, _ => false

def beqAll : List Node → List Node → Bool
  | [], [] => true
  | a :: as, b :: bs => beq a b && beqAll as bs
  | _, _ => false

end

instance : BEq Node := ⟨beq⟩

end Node

structure Query where
  nodes : List Node
  deriving Repr, BEq

namespace Query

def empty : Query := ⟨[]⟩

def isEmpty (q : Query) : Bool :=
  q.nodes.isEmpty

/-- The number of nodes at the top level. -/
def size (q : Query) : Nat :=
  q.nodes.length

/-- The characters of the query's text. -/
def wire (q : Query) : List Char :=
  Node.wireAll q.nodes

/-- The text that is sent for the query. -/
def encode (q : Query) : String :=
  String.ofList q.wire

end Query
end PaperSearch
