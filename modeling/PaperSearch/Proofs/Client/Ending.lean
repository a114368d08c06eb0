import PaperSearch.Proofs.Client.Draining
import PaperSearch.Proofs.Client.Relaying

/-!
# How an iteration ends

An iteration ends when its pages are over or when a search fails. Either way the entries that were
fetched are given first, and the end is final: from the first answer without an entry on, calls
change nothing.

* `Iter.Tells` is what an iterator says of its searches: how many pages they brought, and the error
  of the last of them. Only the last can have one.
* `Iter.Tells.after` and `Iter.Tells.returns` are its steps, over one search and over one call.
* `Recorded.quiet`: an iterator that is done stays as it is.
* `iteration_ends` follows for all calls of an iterator.
-/

namespace PaperSearch

variable {σ : Type}

/-- The error of a search that fails. -/
def Fetch.error? (f : Fetch) : Option SearchError :=
  match f.result with
  | .ok _ => none
  | .error e => some e

theorem Fetch.error?_eq_some_iff {f : Fetch} {e : SearchError} :
    f.error? = some e ↔ f.result = .error e := by
  unfold error?
  cases f.result <;> simp

theorem Fetch.error?_eq_none_iff {f : Fetch} : f.error? = none ↔ f.result.isOk = true := by
  unfold error?
  cases f.result <;> simp [Except.isOk, Except.toBool]

theorem Fetch.exists_page (f : Fetch) (h : f.result.isOk = true) : ∃ page, f.result = .ok page := by
  cases hresult : f.result with
  | ok page => exact ⟨page, rfl⟩
  | error e =>
    rw [hresult] at h
    cases h

/-! ## What an iterator says -/

/-- What an iterator says of the searches that it has made. -/
structure Iter.Tells (it : Iter) (made : List Fetch) : Prop where
  pages : it.pagesFetched = pagesIn made
  error : it.lastError = made.getLast?.bind Fetch.error?
  /-- Only the last search can have failed. -/
  before : ∀ f ∈ made.dropLast, f.result.isOk = true
  failed : it.lastError ≠ none → it.done = true

namespace Iter

variable {c : Client σ} {it it' : Iter} {s s' : Session σ} {made more : List Fetch}
  {answer : Option Entry}

theorem Tells.start (params : Params) (token : Cancellation) : (Iter.start params token).Tells [] :=
  ⟨rfl, rfl, List.forall_mem_nil _, fun h => absurd rfl h⟩

theorem Tells.withToken (h : it.Tells made) (token : Cancellation) :
    { it with token }.Tells made :=
  ⟨h.pages, h.error, h.before, h.failed⟩

theorem Tells.pop (h : it.Tells made) (rest : List Entry) : { it with buffer := rest }.Tells made :=
  ⟨h.pages, h.error, h.before, h.failed⟩

/-- Only the last search can have failed, so that any error is the one that is kept. -/
theorem Tells.lastError_eq_some_iff (h : it.Tells made) {e : SearchError} :
    it.lastError = some e ↔ ∃ f ∈ made, f.result = .error e := by
  rw [h.error, Option.bind_eq_some_iff]
  constructor
  · rintro ⟨f, hlast, herror⟩
    exact ⟨f, List.mem_of_getLast? hlast, Fetch.error?_eq_some_iff.mp herror⟩
  · rintro ⟨f, hf, herror⟩
    obtain ⟨made, g, rfl⟩ := List.eq_nil_or_concat' made |>.resolve_left (List.ne_nil_of_mem hf)
    rw [List.getLast?_concat]
    refine ⟨g, rfl, Fetch.error?_eq_some_iff.mpr ?_⟩
    rcases List.mem_append.mp hf with hf | hf
    · have hok := h.before f (by rw [List.dropLast_concat]; exact hf)
      rw [herror] at hok
      cases hok
    · rw [← List.mem_singleton.mp hf]
      exact herror

/-- Until an iterator is done its searches have all brought pages. -/
theorem Tells.isOk (h : it.Tells made) (hdone : it.done = false) :
    it.lastError = none ∧ ∀ f ∈ made, f.result.isOk = true := by
  have hnone : it.lastError = none := by
    by_contra hne
    rw [h.failed hne] at hdone
    cases hdone
  refine ⟨hnone, fun f hf => ?_⟩
  have hlast := h.error
  rw [hnone] at hlast
  rcases List.eq_nil_or_concat made with rfl | ⟨made, g, rfl⟩
  · cases hf
  · rw [List.concat_eq_append, List.getLast?_concat, Option.bind_some] at hlast
    rw [List.concat_eq_append, List.mem_append, List.mem_singleton] at hf
    rcases hf with hf | rfl
    · exact h.before f (by rw [List.concat_eq_append, List.dropLast_concat]; exact hf)
    · exact Fetch.error?_eq_none_iff.mp hlast.symm

/-- The step over a search. -/
theorem Tells.after (h : it.Tells made) (hdone : it.done = false) (f : Fetch) :
    (it.after f).Tells (made ++ [f]) := by
  obtain ⟨hnone, hok⟩ := h.isOk hdone
  have hpages : pagesIn (made ++ [f]) = it.pagesFetched + pagesIn [f] := by
    rw [h.pages]
    exact List.countP_append
  have hlast : (made ++ [f]).getLast?.bind Fetch.error? = f.error? := by
    rw [List.getLast?_concat, Option.bind_some]
  have hbefore : ∀ g ∈ (made ++ [f]).dropLast, g.result.isOk = true := by
    rw [List.dropLast_concat]
    exact hok
  obtain ⟨request, result⟩ := f
  cases result with
  | ok page => exact ⟨hpages.symm, hnone.trans hlast.symm, hbefore, fun hne => absurd hnone hne⟩
  | error e => exact ⟨hpages.symm, hlast.symm, hbefore, fun _ => rfl⟩

/-- The step over a call, by induction on the searches that the call makes. -/
theorem Tells.returns (hreturns : it.Returns c s more answer it' s') :
    ∀ {made : List Fetch}, it.Tells made → it'.Tells (made ++ more) := by
  induction hreturns with
  | entry hbuffer s =>
    intro made h
    rw [List.append_nil]
    exact h.pop _
  | nothing hbuffer hdone s =>
    intro made h
    rw [List.append_nil]
    exact h
  | @search it it' s s' more answer hbuffer hdone rest ih =>
    intro made h
    rw [List.append_cons]
    refine ih ?_
    rw [run_fetch]
    exact (h.withToken ((c.searchWith it.token it.params).run s).2.token).after hdone
      (it.fetched c s)

/-! ## The end -/

theorem isDone_iff : it.isDone = true ↔ it.done = true ∧ it.buffer = [] := by
  rw [isDone, Bool.and_eq_true, List.isEmpty_iff]

/-- A call of an iterator that is done makes no search and changes nothing. -/
theorem Returns.of_isDone (h : it.Returns c s made answer it' s') (hdone : it.isDone = true) :
    made = [] ∧ answer = none ∧ it' = it ∧ s' = s := by
  obtain ⟨hdone, hempty⟩ := isDone_iff.mp hdone
  cases h with
  | entry hbuffer s =>
    rw [hempty] at hbuffer
    cases hbuffer
  | nothing hbuffer _ s => exact ⟨rfl, rfl, rfl, rfl⟩
  | search hbuffer hnot rest =>
    rw [hdone] at hnot
    cases hnot

/-- An iterator is done exactly when its next call is answered with nothing before any search. -/
theorem isDone_iff_returns (s : Session σ) :
    it.isDone = true ↔ ∃ it' s', it.Returns c s [] none it' s' := by
  constructor
  · intro hdone
    obtain ⟨hdone, hbuffer⟩ := isDone_iff.mp hdone
    exact ⟨it, s, .nothing hbuffer hdone s⟩
  · rintro ⟨it', s', h⟩
    cases h with
    | nothing hbuffer hdone s => exact isDone_iff.mpr ⟨hdone, hbuffer⟩

theorem Returns.isDone (h : it.Returns c s made answer it' s') (hanswer : answer = none) :
    it'.isDone = true := by
  induction h with
  | entry hbuffer s => cases hanswer
  | nothing hbuffer hdone s => exact isDone_iff.mpr ⟨hdone, hbuffer⟩
  | search hbuffer hdone rest ih => exact ih hanswer

/-- A search that fails is the last of its call, and its error is kept. -/
theorem Returns.of_error {f : Fetch} {e : SearchError}
    (h : it.Returns c s (f :: made) answer it' s') (he : f.result = .error e) :
    made = [] ∧ answer = none ∧ it'.isDone = true ∧ it'.lastError = some e := by
  cases h with
  | search hbuffer hdone rest =>
    have hfailed : ((it.fetch c).run s).1.isDone = true ∧
        ((it.fetch c).run s).1.lastError = some e := by
      rw [run_fetch]
      unfold Iter.after
      rw [he]
      exact ⟨isDone_iff.mpr ⟨rfl, hbuffer⟩, rfl⟩
    obtain ⟨hmade, hanswer, rfl, -⟩ := rest.of_isDone hfailed.1
    exact ⟨hmade, hanswer, hfailed⟩

/-- A call in which a search fails is answered with nothing. -/
theorem Returns.fails (h : it.Returns c s made answer it' s') {f : Fetch} {e : SearchError}
    (hf : f ∈ made) (he : f.result = .error e) :
    answer = none ∧ it'.isDone = true ∧ it'.lastError = some e := by
  induction h with
  | entry hbuffer s => cases hf
  | nothing hbuffer hdone s => cases hf
  | search hbuffer hdone rest ih =>
    rcases List.mem_cons.mp hf with rfl | hf
    · exact ((Returns.search hbuffer hdone rest).of_error he).2
    · exact ih hf

/-- A call that needs a search when the token has fired is cancelled, behind interceptors that
relay. -/
theorem Returns.cancelled (h : it.Returns c s made answer it' s')
    (hrelays : ∀ i ∈ c.interceptors, Interceptor.Relays i)
    (hfired : it.token.isFired s.timer = true) {f : Fetch} (hf : f ∈ made)
    (hvalid : f.request.check = .ok ()) : f.result = .error .cancelled := by
  cases h with
  | entry hbuffer s => cases hf
  | nothing hbuffer hdone s => cases hf
  | search hbuffer hdone rest =>
    have hfirst : ∃ e, (it.fetched c s).result = .error e ∧
        (it.params.check = .ok () → e = .cancelled) := by
      cases hcheck : it.params.check with
      | ok _ =>
        have hcancelled := ((Client.stopsRelayed hcheck hrelays it.token s).before hfired).1
        exact ⟨.cancelled, hcancelled, fun _ => rfl⟩
      | error cause =>
        have hrun := Client.run_searchWith_of_error (c := c) hcheck it.token s
        exact ⟨.invalid cause, congrArg Prod.fst hrun, nofun⟩
    obtain ⟨e, he, hcancelled⟩ := hfirst
    obtain ⟨rfl, -⟩ := (Returns.search hbuffer hdone rest).of_error he
    obtain rfl := List.mem_singleton.mp hf
    rw [he, hcancelled hvalid]

end Iter

/-- A call that is answered with nothing, makes no search, and changes nothing. -/
structure Record.Quiet (r : Record σ) : Prop where
  answer : r.answer = none
  made : r.made = []
  tokenAfter : r.tokenAfter = r.token
  after : r.after = r.before

section Recorded

variable {c : Client σ} {it it' : Iter} {record before after : List (Record σ)}

theorem recorded_append :
    Recorded c it (before ++ after) it' ↔
      ∃ it₁, Recorded c it before it₁ ∧ Recorded c it₁ after it' := by
  induction before generalizing it with
  | nil =>
    constructor
    · exact fun h => ⟨it, .none it, h⟩
    · rintro ⟨it₁, hbefore, hafter⟩
      cases hbefore
      exact hafter
  | cons r before ih =>
    constructor
    · intro h
      cases h with
      | more _ hreturns htoken rest =>
        obtain ⟨it₁, hbefore, hafter⟩ := ih.mp rest
        exact ⟨it₁, .more r hreturns htoken hbefore, hafter⟩
    · rintro ⟨it₁, hbefore, hafter⟩
      cases hbefore with
      | more _ hreturns htoken rest => exact .more r hreturns htoken (ih.mpr ⟨it₁, rest, hafter⟩)

/-- An iterator that is done stays so, and only its token may be another. -/
theorem Recorded.quiet (h : Recorded c it record it') (hdone : it.isDone = true) :
    (∀ r ∈ record, r.Quiet) ∧ it' = { it with token := it'.token } := by
  induction h with
  | none it => exact ⟨List.forall_mem_nil _, rfl⟩
  | @more it it₁ it' record r hreturns htoken rest ih =>
    obtain ⟨hmade, hanswer, rfl, hafter⟩ := hreturns.of_isDone hdone
    obtain ⟨hquiet, hsame⟩ := ih hdone
    exact ⟨List.forall_mem_cons.mpr ⟨⟨hanswer, hmade, htoken.symm, hafter⟩, hquiet⟩, hsame⟩

theorem Recorded.tells (h : Recorded c it record it') :
    ∀ {made : List Fetch}, it.Tells made → it'.Tells (made ++ fetched record) := by
  induction h with
  | none it =>
    intro made htells
    exact (List.append_nil made).symm ▸ htells
  | more r hreturns htoken rest ih =>
    intro made htells
    have hrest := ih (Iter.Tells.returns hreturns (htells.withToken r.token))
    rw [List.append_assoc] at hrest
    exact hrest

/-- Each call of a record is one of the iterator as the calls before have left it. -/
theorem Recorded.exists_returns (h : Recorded c it record it') {r : Record σ}
    (hsplit : record = before ++ r :: after) :
    ∃ it₀ it₁ : Iter,
      { it₀ with token := r.token }.Returns c r.before r.made r.answer it₁ r.after ∧
      Recorded c it (before ++ [r]) it₁ ∧ Recorded c it₁ after it' := by
  obtain ⟨it₀, hbefore, hrest⟩ := recorded_append.mp (hsplit ▸ h)
  cases hrest with
  | @more _ it₁ _ _ _ hreturns htoken hafter =>
    exact ⟨it₀, it₁, hreturns,
      recorded_append.mpr ⟨it₀, hbefore, .more r hreturns htoken (.none it₁)⟩, hafter⟩

end Recorded

/-- Nothing is asked for after a page exactly when none follows it, or when it has no width. -/
theorem Fetch.next?_eq_none_iff {params : Params} {f : Fetch} {page : Page}
    (h : f.result = .ok page) :
    f.next? params = none ↔ (page.hasMore && 0 < page.perPage) = false := by
  unfold next?
  rw [h]
  show (if page.hasMore && 0 < page.perPage then _ else none) = none ↔ _
  split
  · rename_i hmore
    rw [hmore]
    exact ⟨nofun, nofun⟩
  · rename_i hmore
    exact ⟨fun _ => Bool.eq_false_iff.mpr hmore, fun _ => rfl⟩

/-- An iterator is done without an error exactly when nothing is asked for after the last page. -/
theorem Keeps.exhausted_iff {params : Params} {calls : Nat} {made : List Fetch} {it : Iter}
    (h : Keeps params calls made it) (htells : it.Tells made) :
    it.done = true ∧ it.lastError = none ↔
      ∃ f page, made.getLast? = some f ∧ f.result = .ok page ∧
        (page.hasMore && 0 < page.perPage) = false := by
  have hdone : it.done = true ↔ nextRequest params made = none := by
    rw [h.request]
    cases it.done <;> simp
  rw [hdone, htells.error]
  unfold nextRequest
  cases made.getLast? with
  | none => simp
  | some f =>
    show f.next? params = none ∧ f.error? = none ↔ _
    rw [Fetch.error?_eq_none_iff]
    constructor
    · rintro ⟨hnext, hok⟩
      obtain ⟨page, hpage⟩ := f.exists_page hok
      exact ⟨f, page, rfl, hpage, (Fetch.next?_eq_none_iff hpage).mp hnext⟩
    · rintro ⟨g, page, hg, hpage, hstop⟩
      obtain rfl := Option.some.inj hg
      refine ⟨(Fetch.next?_eq_none_iff hpage).mpr hstop, ?_⟩
      rw [hpage]
      rfl

/-! ## The end of an iteration -/

/-- How some calls of an iterator with some parameters end. -/
structure Ends (c : Client σ) (params : Params) (token : Cancellation) (record : List (Record σ))
    (it : Iter) : Prop where
  /-- Every entry that a search brings is given before the first answer without an entry. -/
  complete : ∀ before r after, record = before ++ r :: after → r.answer = none →
    (before.filterMap fun r => r.answer) = entriesOf (fetched record)
  /-- From the first answer without an entry on, calls change nothing. -/
  silent : ∀ before r after, record = before ++ r :: after → r.answer = none →
    ∃ it₁, Recorded c (Iter.start params token) (before ++ [r]) it₁ ∧ it₁.isDone = true ∧
      (∀ r' ∈ after, r'.Quiet) ∧ it = { it₁ with token := it.token }
  /-- A search that fails is the last one, and the iterator is done. -/
  onlyLast : ∀ f ∈ (fetched record).dropLast, f.result.isOk = true
  fails : ∀ r ∈ record, ∀ f ∈ r.made, ∀ e, f.result = .error e →
    r.answer = none ∧ it.isDone = true ∧ it.lastError = some e
  /-- A request out of bounds is one way to fail. -/
  refused : ∀ f ∈ fetched record, ∀ cause, f.request.check = .error cause →
    f.result = .error (.invalid cause)
  /-- A token that has fired before a call is another, when the interceptors relay. -/
  cancelled : (∀ i ∈ c.interceptors, Interceptor.Relays i) → ∀ r ∈ record,
    r.token.isFired r.before.timer = true → ∀ f ∈ r.made, f.request.check = .ok () →
      f.result = .error .cancelled
  lastError : ∀ e, it.lastError = some e ↔
    ∃ f, (fetched record).getLast? = some f ∧ f.result = .error e
  /-- An iterator that ends without an error has come to a page that no other follows. -/
  exhausted : it.done = true ∧ it.lastError = none ↔
    ∃ f page, (fetched record).getLast? = some f ∧ f.result = .ok page ∧
      (page.hasMore && 0 < page.perPage) = false
  pages : it.pagesFetched = pagesIn (fetched record)
  /-- It is done exactly when its next call is answered with nothing before any search. -/
  isDone : ∀ token s, it.isDone = true ↔
    ∃ it' s', { it with token }.Returns c s [] none it' s'
  /-- It stays as it is then. -/
  final : it.isDone = true → ∀ token s,
    { it with token }.next c s = some ((none, { it with token }), s)

theorem Recorded.ends {c : Client σ} {params : Params} {token : Cancellation}
    {record : List (Record σ)} {it : Iter} (h : Recorded c (Iter.start params token) record it) :
    Ends c params token record it := by
  have hkeeping := (Keeping.start params token).recorded h
  have htells := h.tells (.start params token)
  rw [List.nil_append] at hkeeping htells
  refine ⟨?_, ?_, htells.before, ?_, ?_, ?_, ?_, ?_, htells.pages, ?_, ?_⟩
  · intro before r after hsplit hnone
    have hr : record[before.length]? = some r := by
      rw [hsplit, List.getElem?_append_right (Nat.le_refl _), Nat.sub_self]
      rfl
    rw [hkeeping.accounts.given_eq hsplit]
    exact List.take_of_length_le (hkeeping.accounts.length_le hr hnone)
  · intro before r after hsplit hnone
    obtain ⟨it₀, it₁, hreturns, hbefore, hafter⟩ := h.exists_returns hsplit
    have hdone := hreturns.isDone hnone
    obtain ⟨hquiet, hsame⟩ := hafter.quiet hdone
    exact ⟨it₁, hbefore, hdone, hquiet, hsame⟩
  · intro r hr f hf e he
    obtain ⟨before, after, hsplit⟩ := List.append_of_mem hr
    obtain ⟨it₀, it₁, hreturns, -, hafter⟩ := h.exists_returns hsplit
    obtain ⟨hnone, hdone, herror⟩ := hreturns.fails hf he
    rw [(hafter.quiet hdone).2]
    exact ⟨hnone, hdone, herror⟩
  · intro f hf cause hcheck
    obtain ⟨r, hr, hf⟩ := List.mem_flatMap.mp hf
    obtain ⟨token₁, s, hresult⟩ := Searches.exists_run (h.isMade r hr) f hf
    rw [← hresult, Client.run_searchWith_of_error hcheck]
  · intro hrelays r hr hfired f hf hvalid
    obtain ⟨before, after, hsplit⟩ := List.append_of_mem hr
    obtain ⟨it₀, it₁, hreturns, -, -⟩ := h.exists_returns hsplit
    exact hreturns.cancelled hrelays hfired hf hvalid
  · intro e
    rw [htells.error, Option.bind_eq_some_iff]
    exact exists_congr fun f => and_congr_right fun _ => Fetch.error?_eq_some_iff
  · exact hkeeping.keeps.exhausted_iff htells
  · intro token s
    exact (Iter.isDone_iff_returns s : { it with token }.isDone = true ↔ _)
  · intro hdone token s
    obtain ⟨hdone, hbuffer⟩ := Iter.isDone_iff.mp hdone
    exact Iter.next_of_done hbuffer hdone

/-- **Endings.** Any calls of an iterator come down to searches. Every entry that these bring is
given before the first answer without an entry, from which on nothing changes any more. A search
that fails is the last and makes the iterator done, and what the iterator says of its pages, its
error and its end is true. -/
theorem iteration_ends (c : Client σ) (params : Params) (token : Cancellation)
    {calls : List (Call σ)} {it : Iter} (h : Calls c (Iter.start params token) calls it) :
    ∃ record, record.map Record.toCall = calls ∧
      Recorded c (Iter.start params token) record it ∧ Ends c params token record it := by
  obtain ⟨record, hmap, hrecorded⟩ := exists_recorded h
  exact ⟨record, hmap, hrecorded, hrecorded.ends⟩

/-- A client that finds two entries of four on the first page, and then fails. -/
def breaking : Client Unit where
  engine := (repeating onlyPage).engine
  interceptors := [fun params _ => pure <|
    if params.start = 0 then
      .ok { Page.default with entries := [.default, .default], perPage := 2, total := 4 }
    else .error (.interceptor "closed")]

/-- The iterator after the first page, with some of its entries left. -/
def betweenPages (buffer : List Entry) : Iter :=
  ⟨{ Params.default with start := 2 }, .fresh, buffer, 1, false, none⟩

/-- The iterator after the search that fails. -/
def afterBreak (token : Cancellation) : Iter :=
  ⟨{ Params.default with start := 2 }, token, [], 1, true, some (.interceptor "closed")⟩

/-- The session after the search that fails. -/
def broken : Session Unit :=
  idle.see (.event ⟨.warn, "Stopping iteration after failed search: " ++
    (SearchError.interceptor "closed").message, [("start", .number 2)]⟩)

/-- Both entries are given, the third call fails, and the fourth, with a token that has fired,
changes nothing. -/
theorem iteration_ends_breaking :
    let fired := Cancellation.fresh.fire
    let calls : List (Call Unit) := [⟨.fresh, idle, some .default, .fresh, idle⟩,
      ⟨.fresh, idle, some .default, .fresh, idle⟩, ⟨.fresh, idle, none, .fresh, broken⟩,
      ⟨fired, broken, none, fired, broken⟩]
    Calls breaking (Iter.start .default .fresh) calls (afterBreak fired) ∧
      ∃ record, record.map Record.toCall = calls ∧
        Recorded breaking (Iter.start .default .fresh) record (afterBreak fired) ∧
        Ends breaking .default .fresh record (afterBreak fired) := by
  intro fired calls
  have hfirst : (Iter.start .default .fresh).next breaking idle =
      some ((some .default, betweenPages [.default]), idle) := by
    rw [Iter.next_of_fetch rfl rfl]
    exact Iter.next_of_buffer rfl
  have hsecond : (betweenPages [.default]).next breaking idle =
      some ((some .default, betweenPages []), idle) := Iter.next_of_buffer rfl
  have hthird : (betweenPages []).next breaking idle =
      some ((none, afterBreak .fresh), broken) := by
    rw [Iter.next_of_fetch rfl rfl]
    exact Iter.next_of_done rfl rfl
  have hfourth : (afterBreak fired).next breaking broken =
      some ((none, afterBreak fired), broken) := Iter.next_of_done rfl rfl
  have hcalls : Calls breaking (Iter.start .default .fresh) calls (afterBreak fired) :=
    .more _ hfirst rfl (.more _ hsecond rfl (.more _ hthird rfl (.more _ hfourth rfl (.none _))))
  exact ⟨hcalls, iteration_ends breaking .default .fresh hcalls⟩

end PaperSearch
