import PaperSearch.Client.Basic
import PaperSearch.Text.Quoted

/-!
# Iterating over results

An iterator gives the results of a search entry by entry. It fetches a page when it has no entries
left and one more is asked for.

* `Iter.fetch` fetches one page.
* `Iter.next` gives the next entry. It has no result when it never returns: a server may send pages
  without entries for ever.
* `Iter.take` gives the next entries.
-/

namespace PaperSearch

structure Iter where
  /-- The parameters of the next page. -/
  params : Params
  token : Cancellation
  /-- Entries that were fetched and not yet given. -/
  buffer : List Entry
  pagesFetched : Nat
  /-- No more pages will be fetched. -/
  done : Bool
  lastError : Option SearchError
  deriving Repr

namespace Iter

variable {σ : Type}

def start (params : Params) (token : Cancellation) : Iter :=
  ⟨params, token, [], 0, false, none⟩

/-- Have all entries been given? -/
def isDone (it : Iter) : Bool :=
  it.done && it.buffer.isEmpty

/-- The iterator after a page. A page of no width leads nowhere. -/
def afterPage (it : Iter) (page : Page) : Iter :=
  let more := page.hasMore && 0 < page.perPage
  { it with
    params := if more then { it.params with start := page.nextStart } else it.params
    buffer := it.buffer ++ page.entries
    pagesFetched := it.pagesFetched + 1
    done := it.done || !more }

/-- The iterator after an error. -/
def afterError (it : Iter) (e : SearchError) : Iter :=
  { it with done := true, lastError := some e }

/-- Fetches a page. -/
def fetch (c : Client σ) (it : Iter) : Search σ Iter := do
  let result ← c.searchWith it.token it.params
  let it := { it with token := (← get).token }
  match result with
  | .ok page => return it.afterPage page
  | .error e =>
    Search.report .warn ("Stopping iteration after failed search: " ++ e.message)
      [("start", .number it.params.start.toNat)]
    return it.afterError e

/-- The next entry, fetching pages until one has entries; none when they have all been given. -/
def next (c : Client σ) (it : Iter) (s : Session σ) :
    Option ((Option Entry × Iter) × Session σ) :=
  match it.buffer with
  | e :: rest => some ((some e, { it with buffer := rest }), s)
  | [] =>
    if it.done then some ((none, it), s)
    else ((it.fetch c).run s).1 |>.next c ((it.fetch c).run s).2
partial_fixpoint

/-- The next entries, so many at most. -/
def take (c : Client σ) : Nat → Iter → Session σ → Option ((List Entry × Iter) × Session σ)
  | 0, it, s => some (([], it), s)
  | n + 1, it, s => do
    match ← it.next c s with
    | ((some e, it), s) =>
      let ((rest, it), s) ← take c n it s
      return ((e :: rest, it), s)
    | ((none, it), s) => return (([], it), s)

/-- Reports the error that ended the entries, if one did. -/
def reportStop (it : Iter) : Search σ Unit :=
  match it.lastError with
  | none => return ()
  | some e => Search.report .error ("Iteration stopped early: " ++ e.message) []

/-! ## Display -/

/-- An optional name, as a debug display shows it. -/
def shownOption (name : Option String) : String :=
  match name with
  | none => "None"
  | some s => "Some(" ++ s ++ ")"

def shownSortField : SortField → String
  | .relevance => "Relevance"
  | .lastUpdated => "LastUpdatedDate"
  | .submitted => "SubmittedDate"

def shownSortOrder : SortOrder → String
  | .ascending => "Ascending"
  | .descending => "Descending"

def shownText (s : String) : String :=
  String.ofList (Text.quoted s.toList)

def shownParams (p : Params) : String :=
  "SearchParams \x7b query: " ++ shownText p.query ++
    ", id_list: [" ++ ", ".intercalate (p.ids.map shownText) ++ "]" ++
    ", start: " ++ toString p.start.toNat ++
    ", max_results: " ++ toString p.maxResults.toNat ++
    ", sort_by: " ++ shownOption (p.sortField.map shownSortField) ++
    ", sort_order: " ++ shownOption (p.sortOrder.map shownSortOrder) ++ " \x7d"

def shown (it : Iter) : String :=
  "SearchIter \x7b params: " ++ shownParams it.params ++
    ", buffered: " ++ toString it.buffer.length ++
    ", pages_fetched: " ++ toString it.pagesFetched ++
    ", done: " ++ toString it.done ++ " \x7d"

end Iter
end PaperSearch
