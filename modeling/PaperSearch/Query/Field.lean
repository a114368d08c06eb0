/-!
# Fields and operators

The words of the query language with a fixed meaning: the codes of text fields, the names of date
fields, the keywords of operators.

* `Field.ofCode?`, `DateField.ofName?` read exactly what `Field.code`, `DateField.name` write.
* `Operator.ofKeyword?` takes a keyword in any mixture of ASCII letter cases.
-/

namespace PaperSearch

/-- What part of a paper's record a term is matched against. -/
inductive Field where
  | title
  | abstract
  | author
  | category
  | comment
  | journal
  | all
  deriving DecidableEq, Repr

namespace Field

def code : Field → List Char
  | title => ['t', 'i']
  | abstract => ['a', 'b', 's']
  | author => ['a', 'u']
  | category => ['c', 'a', 't']
  | comment => ['c', 'o']
  | journal => ['j', 'r']
  | all => ['a', 'l', 'l']

def ofCode? (s : List Char) : Option Field :=
  if s = title.code then some title
  else if s = abstract.code then some abstract
  else if s = author.code then some author
  else if s = category.code then some category
  else if s = comment.code then some comment
  else if s = journal.code then some journal
  else if s = all.code then some all
  else none

end Field

/-- A date of a paper's record that a range restricts. -/
inductive DateField where
  | submitted
  | lastUpdated
  deriving DecidableEq, Repr

namespace DateField

def name : DateField → List Char
  | submitted => "submittedDate".toList
  | lastUpdated => "lastUpdatedDate".toList

def ofName? (s : List Char) : Option DateField :=
  if s = submitted.name then some submitted
  else if s = lastUpdated.name then some lastUpdated
  else none

end DateField

/-- How a node is combined with what stands before it. -/
inductive Operator where
  | and
  | or
  | andNot
  deriving DecidableEq, Repr

namespace Operator

def keyword : Operator → List Char
  | and => ['A', 'N', 'D']
  | or => ['O', 'R']
  | andNot => ['A', 'N', 'D', 'N', 'O', 'T']

def ofKeyword? (word : List Char) : Option Operator :=
  let upper := word.map Char.toUpper
  if upper = and.keyword then some and
  else if upper = or.keyword then some or
  else if upper = andNot.keyword then some andNot
  else none

end Operator
end PaperSearch
