import PaperSearch.Client.Iter
import PaperSearch.Proofs.Client.Session

/-!
# The account of an iteration

Calls of `Iter.next` follow one another (`Calls`). Between two of them the session may become any
other, and the caller may fire the token. A record adds to each call the searches that it makes,
and `Accounts` says what they have to do with the answers.

* `Iter.Returns` is one call with the searches that it makes, and `Recorded` is calls one after
  another.
* `Keeps` is the invariant: what the buffer, the cursor and the mark of the end have to do with the
  searches so far and the number of calls.
* `Keeps.after` and `Keeps.returns` are its steps, over one search and over one call.
* `exists_record` follows by induction on the calls.
-/

namespace PaperSearch

variable {σ : Type}

/-! ## Searches -/

/-- A search of an iteration: what it asks for, and what comes back. -/
structure Fetch where
  request : Params
  result : Result Page

namespace Fetch

/-- The entries that a search brings. -/
def entries (f : Fetch) : List Entry :=
  match f.result with
  | .ok page => page.entries
  | .error _ => []

/-- What is asked for next: the same from where the page ends. Nothing after a failure, or after a
page that is the last or has no width. -/
def next? (params : Params) (f : Fetch) : Option Params :=
  match f.result with
  | .error _ => none
  | .ok page =>
    if page.hasMore && 0 < page.perPage then
      some { params with start := page.start + page.perPage }
    else none

/-- The session after the search: a failure is reported. -/
def reported (f : Fetch) (s : Session σ) : Session σ :=
  match f.result with
  | .ok _ => s
  | .error e => s.see (.event ⟨.warn, "Stopping iteration after failed search: " ++ e.message,
      [("start", .number f.request.start.toNat)]⟩)

end Fetch

/-- The entries of some searches, in order. -/
def entriesOf (made : List Fetch) : List Entry :=
  made.flatMap Fetch.entries

/-- What is asked for after some searches; the first asks for the parameters themselves. -/
def nextRequest (params : Params) (made : List Fetch) : Option Params :=
  match made.getLast? with
  | none => some params
  | some f => f.next? params

theorem entriesOf_append (made more : List Fetch) :
    entriesOf (made ++ more) = entriesOf made ++ entriesOf more :=
  List.flatMap_append

theorem nextRequest_concat (params : Params) (made : List Fetch) (f : Fetch) :
    nextRequest params (made ++ [f]) = f.next? params := by
  unfold nextRequest
  rw [List.getLast?_concat]

/-- Searches made one after another, from a token and a session to a token and a session. -/
inductive Searches (c : Client σ) :
    Cancellation → Session σ → List Fetch → Cancellation → Session σ → Prop where
  | none (token : Cancellation) (s : Session σ) : Searches c token s [] token s
  | more {token token' : Cancellation} {s s' : Session σ} {made : List Fetch} (f : Fetch)
      (h : ((c.searchWith token f.request).run s).1 = f.result)
      (rest : Searches c ((c.searchWith token f.request).run s).2.token
        (f.reported ((c.searchWith token f.request).run s).2) made token' s') :
      Searches c token s (f :: made) token' s'

/-- What a search has brought is what its request gives, in some session. -/
theorem Searches.exists_run {c : Client σ} {token token' : Cancellation} {s s' : Session σ}
    {made : List Fetch} (h : Searches c token s made token' s') :
    ∀ f ∈ made, ∃ token s, ((c.searchWith token f.request).run s).1 = f.result := by
  induction h with
  | none => exact List.forall_mem_nil _
  | more f hresult rest ih => exact List.forall_mem_cons.mpr ⟨⟨_, _, hresult⟩, ih⟩

/-! ## Pages -/

theorem Page.stop?_of_hasMore {page : Page} (h : page.hasMore = true) :
    page.stop? = some (page.start + page.perPage) ∧
      page.start.toNat + page.perPage.toNat < UInt64.size := by
  have hsome : page.stop? ≠ none := by
    intro hnone
    unfold hasMore at h
    rw [hnone, Bool.and_false] at h
    cases h
  unfold stop? at hsome ⊢
  split
  · rename_i hlt
    exact ⟨rfl, hlt⟩
  · rename_i hge
    rw [if_neg hge] at hsome
    exact absurd rfl hsome

theorem Page.nextStart_of_hasMore {page : Page} (h : page.hasMore = true) :
    page.nextStart = page.start + page.perPage := by
  unfold nextStart
  rw [(stop?_of_hasMore h).1]
  rfl

/-- Where a page with more after it ends is a count of 64 bits. -/
theorem Page.toNat_stop_of_hasMore {page : Page} (h : page.hasMore = true) :
    (page.start + page.perPage).toNat = page.start.toNat + page.perPage.toNat := by
  rw [UInt64.toNat_add]
  exact Nat.mod_eq_of_lt (stop?_of_hasMore h).2

/-! ## The invariant -/

/-- An iterator that has been called `calls` times, after the searches it has made. -/
structure Keeps (params : Params) (calls : Nat) (made : List Fetch) (it : Iter) : Prop where
  /-- The buffer is what the calls have left of the entries. -/
  buffer : it.buffer = (entriesOf made).drop calls
  /-- The next search is the one to be made, and none is when it is done. -/
  request : nextRequest params made = if it.done then none else some it.params
  /-- Until it is done, each call has been answered with an entry. -/
  answered : it.done = false → calls ≤ (entriesOf made).length

theorem Keeps.start (params : Params) (token : Cancellation) :
    Keeps params 0 [] (Iter.start params token) :=
  ⟨rfl, rfl, fun _ => Nat.le_refl 0⟩

theorem Keeps.withToken {params : Params} {calls : Nat} {made : List Fetch} {it : Iter}
    (h : Keeps params calls made it) (token : Cancellation) :
    Keeps params calls made { it with token } :=
  ⟨h.buffer, h.request, h.answered⟩

/-- All entries have been given when another page is needed. -/
theorem Keeps.length_eq {params : Params} {calls : Nat} {made : List Fetch} {it : Iter}
    (h : Keeps params calls made it) (hbuffer : it.buffer = []) (hdone : it.done = false) :
    (entriesOf made).length = calls := by
  have hdrop := h.buffer
  rw [hbuffer] at hdrop
  exact Nat.le_antisymm (List.drop_eq_nil_iff.mp hdrop.symm) (h.answered hdone)

/-- The request of an iterator differs from its first in the start alone. -/
theorem start_of_nextRequest {params request : Params} {made : List Fetch}
    (h : nextRequest params made = some request) (start : UInt64) :
    { request with start } = { params with start } := by
  unfold nextRequest at h
  split at h
  · cases h
    rfl
  · rename_i f _
    unfold Fetch.next? at h
    split at h
    · cases h
    · split at h
      · cases h
        rfl
      · cases h

/-! ## One search -/

/-- The search that an iterator makes in a session. -/
def Iter.fetched (c : Client σ) (it : Iter) (s : Session σ) : Fetch :=
  ⟨it.params, ((c.searchWith it.token it.params).run s).1⟩

/-- The iterator after a search. -/
def Iter.after (it : Iter) (f : Fetch) : Iter :=
  match f.result with
  | .ok page => it.afterPage page
  | .error e => it.afterError e

theorem Iter.run_fetch (c : Client σ) (it : Iter) (s : Session σ) :
    (it.fetch c).run s =
      ({ it with token := ((c.searchWith it.token it.params).run s).2.token }.after
          (it.fetched c s),
        (it.fetched c s).reported ((c.searchWith it.token it.params).run s).2) := by
  unfold fetch after Fetch.reported fetched
  rw [Search.run_bind]
  cases ((c.searchWith it.token it.params).run s).1 <;> rfl

/-- An iterator that has gone on after a search knows what is asked for next. -/
theorem Iter.request_after {params : Params} {it : Iter} (hdone : it.done = false)
    (hstart : ∀ start, { it.params with start } = { params with start }) (f : Fetch) :
    f.next? params = if (it.after f).done then none else some (it.after f).params := by
  obtain ⟨request, result⟩ := f
  cases result with
  | error e => rfl
  | ok page =>
    have hdone' : (it.after ⟨request, .ok page⟩).done =
        !(page.hasMore && decide (0 < page.perPage)) := by
      show (it.done || _) = _
      rw [hdone]
      rfl
    rw [hdone']
    unfold Fetch.next?
    show (if page.hasMore && decide (0 < page.perPage) then _ else _) = if _ then _ else
      some (if page.hasMore && decide (0 < page.perPage) then
        { it.params with start := page.nextStart } else it.params)
    cases hmore : page.hasMore && decide (0 < page.perPage) with
    | false => rfl
    | true =>
      rw [Page.nextStart_of_hasMore (Bool.and_eq_true_iff.mp hmore).1, hstart]
      rfl

theorem Iter.buffer_after (it : Iter) (f : Fetch) :
    (it.after f).buffer = it.buffer ++ f.entries := by
  obtain ⟨request, result⟩ := f
  cases result with
  | error e => exact (List.append_nil it.buffer).symm
  | ok page => rfl

/-- The step of the invariant over a search. -/
theorem Keeps.after {params : Params} {calls : Nat} {made : List Fetch} {it : Iter}
    (h : Keeps params calls made it) (hbuffer : it.buffer = []) (hdone : it.done = false)
    (f : Fetch) : Keeps params calls (made ++ [f]) (it.after f) := by
  have hlength := h.length_eq hbuffer hdone
  have hrequest : nextRequest params made = some it.params := by
    rw [h.request, hdone]
    rfl
  refine ⟨?_, ?_, ?_⟩
  · rw [it.buffer_after f, hbuffer, entriesOf_append, ← hlength, List.drop_left]
    exact (List.append_nil f.entries).symm
  · rw [nextRequest_concat]
    exact it.request_after hdone (start_of_nextRequest hrequest) f
  · intro _
    rw [entriesOf_append, List.length_append]
    omega

theorem Iter.token_after (it : Iter) (f : Fetch) : (it.after f).token = it.token := by
  obtain ⟨request, result⟩ := f
  cases result <;> rfl

/-! ## One call -/

namespace Iter

variable {c : Client σ} {it : Iter} {s : Session σ}

theorem next_of_buffer {e : Entry} {rest : List Entry} (hbuffer : it.buffer = e :: rest) :
    it.next c s = some ((some e, { it with buffer := rest }), s) := by
  rw [next, hbuffer]

theorem next_of_done (hbuffer : it.buffer = []) (hdone : it.done = true) :
    it.next c s = some ((none, it), s) := by
  rw [next, hbuffer]
  exact if_pos hdone

theorem next_of_fetch (hbuffer : it.buffer = []) (hdone : it.done = false) :
    it.next c s = ((it.fetch c).run s).1.next c ((it.fetch c).run s).2 := by
  rw [next, hbuffer]
  exact if_neg (Bool.eq_false_iff.mp hdone)

/-- A call comes back, after these searches, with an answer, and leaves this iterator and this
session. -/
inductive Returns (c : Client σ) :
    Iter → Session σ → List Fetch → Option Entry → Iter → Session σ → Prop where
  | entry {it : Iter} {e : Entry} {rest : List Entry} (hbuffer : it.buffer = e :: rest)
      (s : Session σ) : Returns c it s [] (some e) { it with buffer := rest } s
  | nothing {it : Iter} (hbuffer : it.buffer = []) (hdone : it.done = true) (s : Session σ) :
      Returns c it s [] none it s
  | search {it it' : Iter} {s s' : Session σ} {made : List Fetch} {answer : Option Entry}
      (hbuffer : it.buffer = []) (hdone : it.done = false)
      (rest : Returns c ((it.fetch c).run s).1 ((it.fetch c).run s).2 made answer it' s') :
      Returns c it s (it.fetched c s :: made) answer it' s'

theorem next_of_returns {made : List Fetch} {answer : Option Entry} {it' : Iter} {s' : Session σ}
    (h : Returns c it s made answer it' s') : it.next c s = some ((answer, it'), s') := by
  induction h with
  | entry hbuffer s => exact next_of_buffer hbuffer
  | nothing hbuffer hdone s => exact next_of_done hbuffer hdone
  | search hbuffer hdone rest ih => exact (next_of_fetch hbuffer hdone).trans ih

theorem exists_returns {r : (Option Entry × Iter) × Session σ} (hrun : it.next c s = some r) :
    ∃ made, Returns c it s made r.1.1 r.1.2 r.2 := by
  refine next.partial_correctness c (fun it s r => ∃ made, Returns c it s made r.1.1 r.1.2 r.2)
    ?_ it s r hrun
  intro next ih it s r hrun
  split at hrun
  · rename_i e rest hbuffer
    cases hrun
    exact ⟨[], .entry hbuffer s⟩
  · rename_i hbuffer
    split at hrun
    · rename_i hdone
      cases hrun
      exact ⟨[], .nothing hbuffer hdone s⟩
    · rename_i hdone
      obtain ⟨made, hrest⟩ := ih _ _ r hrun
      exact ⟨it.fetched c s :: made, .search hbuffer (Bool.eq_false_iff.mpr hdone) hrest⟩

/-- A call comes back exactly when its searches come to an end. -/
theorem next_eq_some_iff {answer : Option Entry} {it' : Iter} {s' : Session σ} :
    it.next c s = some ((answer, it'), s') ↔ ∃ made, Returns c it s made answer it' s' :=
  ⟨exists_returns, fun ⟨_, h⟩ => next_of_returns h⟩

theorem Returns.searches {made : List Fetch} {answer : Option Entry} {it' : Iter} {s' : Session σ}
    (h : Returns c it s made answer it' s') : Searches c it.token s made it'.token s' := by
  induction h with
  | entry hbuffer s => exact .none _ _
  | nothing hbuffer hdone s => exact .none _ _
  | @search it it' s s' made answer hbuffer hdone rest ih =>
    rw [run_fetch, token_after] at ih
    exact .more (it.fetched c s) rfl ih

end Iter

/-- What one more call does: the searches it makes, its answer, and the iterator after it. -/
structure OneMore (params : Params) (calls : Nat) (made more : List Fetch)
    (answer : Option Entry) (it : Iter) : Prop where
  keeps : Keeps params (calls + 1) (made ++ more) it
  returned : answer = (entriesOf (made ++ more))[calls]?
  lazy : ∀ before f after, more = before ++ f :: after →
    (entriesOf (made ++ before)).length = calls ∧
      nextRequest params (made ++ before) = some f.request
  finished : answer = none → nextRequest params (made ++ more) = none

/-- A call that makes no search. -/
theorem OneMore.of_keeps {params : Params} {calls : Nat} {made : List Fetch}
    {answer : Option Entry} {it : Iter} (hkeeps : Keeps params (calls + 1) made it)
    (hreturned : answer = (entriesOf made)[calls]?)
    (hfinished : answer = none → nextRequest params made = none) :
    OneMore params calls made [] answer it := by
  rw [← List.append_nil made] at hkeeps hreturned hfinished
  refine ⟨hkeeps, hreturned, ?_, hfinished⟩
  intro before f after hsplit
  cases before <;> cases hsplit

/-- A call that is answered from the buffer. -/
theorem Keeps.pop {params : Params} {calls : Nat} {made : List Fetch} {it : Iter}
    (h : Keeps params calls made it) {e : Entry} {rest : List Entry}
    (hbuffer : it.buffer = e :: rest) :
    OneMore params calls made [] (some e) { it with buffer := rest } := by
  have hdrop : (entriesOf made).drop calls = e :: rest := by
    rw [← h.buffer, hbuffer]
  have hentry : (entriesOf made)[calls]? = some e := by
    rw [← List.head?_drop, hdrop]
    rfl
  refine .of_keeps ⟨?_, h.request, ?_⟩ hentry.symm (fun hnone => by cases hnone)
  · rw [← List.tail_drop, hdrop]
    rfl
  · intro _
    exact (List.getElem?_eq_some_iff.mp hentry).1

/-- A call when nothing is left. -/
theorem Keeps.stop {params : Params} {calls : Nat} {made : List Fetch} {it : Iter}
    (h : Keeps params calls made it) (hbuffer : it.buffer = []) (hdone : it.done = true) :
    OneMore params calls made [] none it := by
  have hlength : (entriesOf made).length ≤ calls := by
    have hdrop := h.buffer
    rw [hbuffer] at hdrop
    exact List.drop_eq_nil_iff.mp hdrop.symm
  refine .of_keeps ⟨?_, h.request, ?_⟩ (List.getElem?_eq_none hlength).symm ?_
  · rw [hbuffer]
    exact (List.drop_eq_nil_of_le (by omega)).symm
  · intro hnot
    rw [hdone] at hnot
    cases hnot
  · intro _
    rw [h.request, hdone]
    rfl

/-- A call that makes a search first. -/
theorem OneMore.fetch {params : Params} {calls : Nat} {made more : List Fetch} {f : Fetch}
    {answer : Option Entry} {it : Iter} (hlength : (entriesOf made).length = calls)
    (hrequest : nextRequest params made = some f.request)
    (h : OneMore params calls (made ++ [f]) more answer it) :
    OneMore params calls made (f :: more) answer it := by
  have hassoc : made ++ f :: more = made ++ [f] ++ more := List.append_cons made f more
  refine ⟨?_, ?_, ?_, ?_⟩
  · rw [hassoc]
    exact h.keeps
  · rw [hassoc]
    exact h.returned
  · intro before g after hsplit
    cases before with
    | nil =>
      cases hsplit
      rw [List.append_nil]
      exact ⟨hlength, hrequest⟩
    | cons f' before =>
      cases hsplit
      rw [List.append_cons]
      exact h.lazy before g after rfl
  · rw [hassoc]
    exact h.finished

/-- The step of the invariant over a call, by induction on the searches that the call makes. -/
theorem Keeps.returns {c : Client σ} {params : Params} {calls : Nat} {it it' : Iter}
    {s s' : Session σ} {more : List Fetch} {answer : Option Entry}
    (hreturns : it.Returns c s more answer it' s') :
    ∀ {made : List Fetch}, Keeps params calls made it →
      OneMore params calls made more answer it' := by
  induction hreturns with
  | entry hbuffer s => exact fun h => h.pop hbuffer
  | nothing hbuffer hdone s => exact fun h => h.stop hbuffer hdone
  | @search it it' s s' more answer hbuffer hdone rest ih =>
    intro made h
    have hkeeps := (h.withToken ((c.searchWith it.token it.params).run s).2.token).after
      hbuffer hdone (it.fetched c s)
    have hrequest : nextRequest params made = some it.params := by
      rw [h.request, hdone]
      rfl
    rw [Iter.run_fetch] at ih
    exact (ih hkeeps).fetch (h.length_eq hbuffer hdone) hrequest

/-! ## Calls one after another -/

/-- A call of `next` that has come back: its answer, and the token and the session before and after
it. -/
structure Call (σ : Type) where
  token : Cancellation
  before : Session σ
  answer : Option Entry
  tokenAfter : Cancellation
  after : Session σ

/-- Calls of one iterator, each on what the one before has left of it. The session and the token
may be any at each call. -/
inductive Calls (c : Client σ) : Iter → List (Call σ) → Iter → Prop where
  | none (it : Iter) : Calls c it [] it
  | more {it it₁ it' : Iter} {calls : List (Call σ)} (call : Call σ)
      (h : { it with token := call.token }.next c call.before =
        some ((call.answer, it₁), call.after))
      (htoken : it₁.token = call.tokenAfter) (rest : Calls c it₁ calls it') :
      Calls c it (call :: calls) it'

/-- A call, and the searches that it makes. -/
structure Record (σ : Type) extends Call σ where
  made : List Fetch

/-- The session after the call is what the searches leave. -/
def Record.IsMade (c : Client σ) (r : Record σ) : Prop :=
  Searches c r.token r.before r.made r.tokenAfter r.after

/-- The searches of some calls, in order. -/
def fetched (record : List (Record σ)) : List Fetch :=
  record.flatMap Record.made

/-- What an iteration with some parameters may ask for after a search, or at first: the parameters
themselves, and later the same from where the page before ends. -/
def Asks (params : Params) (last : Option Fetch) (request : Params) : Prop :=
  match last with
  | none => request = params
  | some f => ∃ page start, f.result = .ok page ∧
      start.toNat = page.start.toNat + page.perPage.toNat ∧ request = { params with start }

/-- How the searches of an iteration with some parameters go with its answers. -/
structure Accounts (params : Params) (record : List (Record σ)) : Prop where
  /-- The answers are the first entries of the pages, in order; none is left when they are over. -/
  returned : record.map (fun r => r.answer) =
    (List.range record.length).map fun i => (entriesOf (fetched record))[i]?
  /-- A search in a call comes when the calls before have been answered with all the entries. -/
  lazy : ∀ i r before f after, record[i]? = some r → r.made = before ++ f :: after →
    (entriesOf (fetched (record.take i) ++ before)).length = i
  requests : ∀ before f after, fetched record = before ++ f :: after →
    Asks params before.getLast? f.request
  /-- When there is no entry for a call, there is no page to ask for. -/
  finished : ∀ i r, record[i]? = some r → r.answer = none →
    nextRequest params (fetched (record.take (i + 1))) = none

/-- The invariant over calls. -/
structure Keeping (params : Params) (record : List (Record σ)) (it : Iter) : Prop where
  keeps : Keeps params record.length (fetched record) it
  accounts : Accounts params record

theorem asks_of_nextRequest {params request : Params} {made : List Fetch}
    (h : nextRequest params made = some request) : Asks params made.getLast? request := by
  unfold nextRequest at h
  unfold Asks
  split at h
  · cases h
    rfl
  · rename_i f _
    unfold Fetch.next? at h
    split at h
    · cases h
    · rename_i page hresult
      split at h
      · rename_i hmore
        cases h
        have hmore' : page.hasMore = true := (Bool.and_eq_true_iff.mp hmore).1
        exact ⟨page, page.start + page.perPage, hresult, Page.toNat_stop_of_hasMore hmore', rfl⟩
      · cases h

theorem fetched_concat (record : List (Record σ)) (r : Record σ) :
    fetched (record ++ [r]) = fetched record ++ r.made := by
  unfold fetched
  rw [List.flatMap_append, List.flatMap_singleton]

theorem getElem?_concat_cases {record : List (Record σ)} {r r' : Record σ} {i : Nat}
    (h : (record ++ [r])[i]? = some r') :
    (i < record.length ∧ record[i]? = some r') ∨ (i = record.length ∧ r' = r) := by
  have hi := (List.getElem?_eq_some_iff.mp h).1
  rw [List.length_append] at hi
  rcases Nat.lt_or_ge i record.length with hlt | hge
  · rw [List.getElem?_append_left hlt] at h
    exact Or.inl ⟨hlt, h⟩
  · have heq : i = record.length := Nat.le_antisymm (Nat.le_of_lt_succ hi) hge
    subst heq
    rw [List.getElem?_concat_length] at h
    cases h
    exact Or.inr ⟨rfl, rfl⟩

/-- Searches are only made when the entries before them have been given. -/
theorem OneMore.getElem?_of_lt {params : Params} {calls : Nat} {made more : List Fetch}
    {answer : Option Entry} {it : Iter} (h : OneMore params calls made more answer it) {i : Nat}
    (hi : i < calls) : (entriesOf (made ++ more))[i]? = (entriesOf made)[i]? := by
  cases more with
  | nil => rw [List.append_nil]
  | cons f more =>
    have hlength := (h.lazy [] f more rfl).1
    rw [List.append_nil] at hlength
    rw [entriesOf_append, List.getElem?_append_left (by omega)]

/-- The step of the invariant over a call. -/
theorem Keeping.concat {params : Params} {record : List (Record σ)} {it it' : Iter}
    (h : Keeping params record it) (r : Record σ)
    (hmore : OneMore params record.length (fetched record) r.made r.answer it') :
    Keeping params (record ++ [r]) it' := by
  refine ⟨?_, ?_, ?_, ?_, ?_⟩
  · rw [fetched_concat, List.length_append]
    exact hmore.keeps
  · rw [List.map_append, List.length_append, fetched_concat, h.accounts.returned]
    show _ ++ [r.answer] = (List.range (record.length + 1)).map _
    rw [List.range_succ, List.map_append]
    congr 1
    · apply List.map_congr_left
      intro i hi
      exact (hmore.getElem?_of_lt (List.mem_range.mp hi)).symm
    · exact congrArg (fun answer => [answer]) hmore.returned
  · intro i r' before f after hr hsplit
    rcases getElem?_concat_cases hr with ⟨hlt, hr⟩ | ⟨rfl, rfl⟩
    · rw [List.take_append_of_le_length (Nat.le_of_lt hlt)]
      exact h.accounts.lazy i r' before f after hr hsplit
    · rw [List.take_left]
      exact (hmore.lazy before f after hsplit).1
  · intro before f after hsplit
    rw [fetched_concat] at hsplit
    rcases List.append_eq_append_iff.mp hsplit with ⟨before', rfl, hmade⟩ | ⟨rest, hmade, hrest⟩
    · exact asks_of_nextRequest (hmore.lazy before' f after hmade).2
    · cases rest with
      | nil =>
        rw [List.append_nil] at hmade
        have hlazy := (hmore.lazy [] f after hrest.symm).2
        rw [List.append_nil, hmade] at hlazy
        exact asks_of_nextRequest hlazy
      | cons g rest =>
        cases hrest
        exact h.accounts.requests before f rest hmade
  · intro i r' hr hnone
    rcases getElem?_concat_cases hr with ⟨hlt, hr⟩ | ⟨rfl, rfl⟩
    · rw [List.take_append_of_le_length hlt]
      exact h.accounts.finished i r' hr hnone
    · rw [List.take_of_length_le (by rw [List.length_append]; exact Nat.le_refl _),
        fetched_concat]
      exact hmore.finished hnone

theorem Keeping.start (params : Params) (token : Cancellation) :
    Keeping params ([] : List (Record σ)) (Iter.start params token) := by
  refine ⟨Keeps.start params token, rfl, ?_, ?_, ?_⟩
  · intro i r before f after hr
    cases hr
  · intro before f after hsplit
    cases before <;> cases hsplit
  · intro i r hr
    cases hr

theorem filterMap_getElem?_range {α : Type} (l : List α) (n : Nat) :
    ((List.range n).map fun i => l[i]?).filterMap id = l.take n := by
  induction n with
  | zero => rfl
  | succ n ih =>
    rw [List.range_succ, List.map_append, List.filterMap_append, ih, List.take_add_one]
    rfl

/-- The entries given by the first calls are the first entries of the pages. -/
theorem Accounts.given_eq {params : Params} {record before after : List (Record σ)}
    (h : Accounts params record) (hsplit : record = before ++ after) :
    (before.filterMap fun r => r.answer) = (entriesOf (fetched record)).take before.length := by
  have hanswers : before.map (fun r => r.answer) =
      (List.range before.length).map fun i => (entriesOf (fetched record))[i]? := by
    have hall := congrArg (List.take before.length) h.returned
    rw [← List.map_take, ← List.map_take, List.take_range, hsplit, List.take_left,
      List.length_append, Nat.min_eq_left (Nat.le_add_right _ _)] at hall
    rw [hsplit]
    exact hall
  rw [← filterMap_getElem?_range, ← hanswers, List.filterMap_map]
  rfl

/-- When there is no entry for a call, the calls before it have been given all entries. -/
theorem Accounts.length_le {params : Params} {record : List (Record σ)}
    (h : Accounts params record) {i : Nat} {r : Record σ} (hr : record[i]? = some r)
    (hnone : r.answer = none) : (entriesOf (fetched record)).length ≤ i := by
  have hlt := (List.getElem?_eq_some_iff.mp hr).1
  have hanswer := congrArg (fun answers => answers[i]?) h.returned
  rw [List.getElem?_map, hr, List.getElem?_map, List.getElem?_range hlt] at hanswer
  refine List.getElem?_eq_none_iff.mp ?_
  rw [← hnone]
  exact (Option.some.inj hanswer).symm

/-- Calls of one iterator with the searches that each of them makes. -/
inductive Recorded (c : Client σ) : Iter → List (Record σ) → Iter → Prop where
  | none (it : Iter) : Recorded c it [] it
  | more {it it₁ it' : Iter} {record : List (Record σ)} (r : Record σ)
      (h : { it with token := r.token }.Returns c r.before r.made r.answer it₁ r.after)
      (htoken : it₁.token = r.tokenAfter) (rest : Recorded c it₁ record it') :
      Recorded c it (r :: record) it'

theorem exists_recorded {c : Client σ} {it it' : Iter} {calls : List (Call σ)}
    (h : Calls c it calls it') :
    ∃ record, record.map Record.toCall = calls ∧ Recorded c it record it' := by
  induction h with
  | none it => exact ⟨[], rfl, .none it⟩
  | more call hcall htoken rest ih =>
    obtain ⟨made, hreturns⟩ := Iter.next_eq_some_iff.mp hcall
    obtain ⟨record, hmap, hrecorded⟩ := ih
    refine ⟨⟨call, made⟩ :: record, ?_, .more ⟨call, made⟩ hreturns htoken hrecorded⟩
    rw [List.map_cons, hmap]

theorem Recorded.isMade {c : Client σ} {it it' : Iter} {record : List (Record σ)}
    (h : Recorded c it record it') : ∀ r ∈ record, r.IsMade c := by
  induction h with
  | none it => exact fun r hr => absurd hr List.not_mem_nil
  | more r hreturns htoken rest ih =>
    refine List.forall_mem_cons.mpr ⟨?_, ih⟩
    have hsearches := hreturns.searches
    rw [htoken] at hsearches
    exact hsearches

/-- Calls go on with the account of those before them. -/
theorem Keeping.recorded {c : Client σ} {params : Params} {it it' : Iter} {more : List (Record σ)}
    (hrecorded : Recorded c it more it') {record : List (Record σ)}
    (h : Keeping params record it) : Keeping params (record ++ more) it' := by
  induction hrecorded generalizing record with
  | none it =>
    rw [List.append_nil]
    exact h
  | more r hreturns htoken rest ih =>
    rw [List.append_cons]
    exact ih (h.concat r (Keeps.returns hreturns (h.keeps.withToken r.token)))

/-- Every iteration has an account: each of its calls makes some searches, and these go with the
answers. -/
theorem exists_record {c : Client σ} {params : Params} {token : Cancellation} {it : Iter}
    {calls : List (Call σ)} (h : Calls c (Iter.start params token) calls it) :
    ∃ record, record.map Record.toCall = calls ∧ (∀ r ∈ record, r.IsMade c) ∧
      Accounts params record := by
  obtain ⟨record, hmap, hrecorded⟩ := exists_recorded h
  have hkeeping := (Keeping.start params token).recorded hrecorded
  exact ⟨record, hmap, hrecorded.isMade, hkeeping.accounts⟩

end PaperSearch
