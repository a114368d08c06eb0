import PaperSearch.Paper.Entry
import PaperSearch.Search.Params

/-!
# Pages of results

A page is a window of the results of a search: how many there are, where the window starts and
how wide it is, with the papers in it and the parameters that asked for it.

* `Page.hasMore`, `Page.hasPrevious` say whether there are results beyond the window.
* `Page.nextStart`, `Page.previousStart` say where the windows beside it start. They stop at the
  ends of the 64-bit counts.
-/

namespace PaperSearch

structure Page where
  entries : List Entry
  start : UInt64
  perPage : UInt64
  total : UInt64
  title : String
  id : String
  updated : String
  links : List Link
  params : Params
  deriving DecidableEq, Repr

namespace Page

def default : Page := ⟨[], 0, 0, 0, "", "", "", [], Params.default⟩

instance : Inhabited Page := ⟨default⟩

/-- Where the window ends, if that is a 64-bit count. -/
def stop? (p : Page) : Option UInt64 :=
  if p.start.toNat + p.perPage.toNat < UInt64.size then some (p.start + p.perPage) else none

def hasMore (p : Page) : Bool :=
  0 < p.total && match p.stop? with
    | some stop => stop < p.total
    | none => false

def hasPrevious (p : Page) : Bool :=
  0 < p.total && 0 < p.start

def nextStart (p : Page) : UInt64 :=
  p.stop?.getD (UInt64.ofNat (UInt64.size - 1))

def previousStart (p : Page) : UInt64 :=
  if p.perPage ≤ p.start then p.start - p.perPage else 0

def size (p : Page) : Nat :=
  p.entries.length

def isEmpty (p : Page) : Bool :=
  p.entries.isEmpty

end Page
end PaperSearch
