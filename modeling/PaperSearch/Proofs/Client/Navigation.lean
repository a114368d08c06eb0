import PaperSearch.Proofs.Client.Coverage
import PaperSearch.Proofs.Client.Paging

/-!
# Going to the next page and back

What a page says of its neighbours is exact, whatever 64-bit counts it was given: a sum that does
not fit is never below the total (`Page.hasMore_iff`). So the start of the next page, less its
width, is the start of the page before it, and whoever goes on and then back asks for the same
window again (`Client.leadsBack`).

A client says that there are no more pages exactly when the page says so, and then nothing happens.
Nothing else says it: neither the engine (`Engine.neverExhausted_execute`) nor the interceptors of
the library (`Interceptor.IsTruthful`).
-/

namespace PaperSearch

variable {σ α β : Type}

/-! ## Neighbours of a page -/

namespace Page

variable {p p' : Page}

theorem hasMore_iff : p.hasMore = true ↔
    0 < p.total.toNat ∧ p.start.toNat + p.perPage.toNat < p.total.toNat := by
  have hpositive : 0 < p.total ↔ 0 < p.total.toNat := UInt64.lt_iff_toNat_lt
  have htotal := p.total.toNat_lt
  unfold hasMore stop?
  rw [Bool.and_eq_true, decide_eq_true_eq, hpositive]
  refine and_congr_right fun _ => ?_
  by_cases hfits : p.start.toNat + p.perPage.toNat < UInt64.size
  · rw [if_pos hfits]
    show decide (p.start + p.perPage < p.total) = true ↔ _
    rw [decide_eq_true_eq, UInt64.lt_iff_toNat_lt, toNat_add_of_lt hfits]
  · -- a sum that is no 64-bit count is beyond every total
    rw [if_neg hfits]
    exact iff_of_false Bool.false_ne_true fun hlt => hfits (hlt.trans htotal)

theorem toNat_nextStart (h : p.hasMore = true) :
    p.nextStart.toNat = p.start.toNat + p.perPage.toNat := by
  rw [nextStart_of_hasMore h, toNat_stop_of_hasMore h]

theorem hasPrevious_iff : p.hasPrevious = true ↔ 0 < p.total.toNat ∧ 0 < p.start.toNat := by
  unfold hasPrevious
  rw [Bool.and_eq_true, decide_eq_true_eq, decide_eq_true_eq, UInt64.lt_iff_toNat_lt,
    UInt64.lt_iff_toNat_lt]
  exact Iff.rfl

/-- A page follows another one: it starts where that one ends and is as wide. -/
structure Follows (p' p : Page) : Prop where
  start : p'.start = p.nextStart
  perPage : p'.perPage = p.perPage
  total : 0 < p'.total

theorem Follows.hasPrevious (h : p'.Follows p) (hmore : p.hasMore = true)
    (hwide : 0 < p.perPage) : p'.hasPrevious = true := by
  have htotal : 0 < p'.total.toNat := UInt64.lt_iff_toNat_lt.mp h.total
  have hwidth : 0 < p.perPage.toNat := UInt64.lt_iff_toNat_lt.mp hwide
  refine hasPrevious_iff.mpr ⟨htotal, ?_⟩
  rw [h.start, toNat_nextStart hmore]
  omega

theorem Follows.previousStart (h : p'.Follows p) (hmore : p.hasMore = true) :
    p'.previousStart = p.start := by
  have hle : p'.perPage ≤ p'.start := by
    rw [UInt64.le_iff_toNat_le, h.start, h.perPage, toNat_nextStart hmore]
    exact Nat.le_add_left _ _
  rw [Page.previousStart, if_pos hle, h.start, h.perPage, nextStart_of_hasMore hmore,
    UInt64.add_sub_cancel]

end Page

/-! ## Who says that there are no more pages -/

/-- Whatever the session, the step does not say that there are no more pages. -/
def Search.NeverExhausted (x : Search σ (Result α)) : Prop :=
  ∀ s direction, (x.run s).1 ≠ .error (.exhausted direction)

namespace Search.NeverExhausted

theorem bind {x : Search σ β} {f : β → Search σ (Result α)} (h : ∀ b, NeverExhausted (f b)) :
    NeverExhausted (x >>= f) :=
  fun s => h (x.run s).1 (x.run s).2

theorem pure {result : Result α} (h : ∀ direction, result ≠ .error (.exhausted direction)) :
    NeverExhausted (Pure.pure result : Search σ (Result α)) :=
  fun _ => h

theorem ok (a : α) : NeverExhausted (Pure.pure (.ok a) : Search σ (Result α)) := by
  refine .pure fun direction h => ?_
  cases h

theorem invalid (cause : InvalidParams) :
    NeverExhausted (Pure.pure (.error (.invalid cause)) : Search σ (Result α)) := by
  refine .pure fun direction h => ?_
  cases h

theorem cancelled : NeverExhausted (Pure.pure (.error .cancelled) : Search σ (Result α)) := by
  refine .pure fun direction h => ?_
  cases h

theorem breakOff : NeverExhausted (Search.breakOff : Search σ (Result α)) := by
  refine .bind fun _ => .pure fun direction h => ?_
  cases h

end Search.NeverExhausted

open Search (NeverExhausted)

/-- The interceptor does not say itself that there are no more pages. -/
def Interceptor.IsTruthful (i : Interceptor σ) : Prop :=
  ∀ next : Next σ, (∀ params, NeverExhausted (next.run params)) →
    ∀ params, NeverExhausted (i params next)

namespace Engine

variable (e : Engine σ)

theorem neverExhausted_giveUp (outcome : Outcome) (number : UInt32) :
    NeverExhausted (giveUp outcome number : Search σ (Result Response)) := by
  have hfailure : ∀ direction, (.error (failure outcome number) : Result Response) ≠
      .error (.exhausted direction) := by
    intro direction h
    unfold failure at h
    split at h <;> cases h
  unfold giveUp
  split
  · exact .bind fun _ => .pure hfailure
  · exact .pure hfailure

theorem neverExhausted_attempts (encoded : String) (number : UInt32) :
    NeverExhausted (e.attempts encoded number) := by
  induction number using attempts.induct with
  | e => exact e
  | case1 number ih =>
    rw [attempts]
    refine .bind fun outcome? => ?_
    cases outcome? with
    | none => exact .cancelled
    | some outcome =>
      dsimp only
      cases success? outcome with
      | some response =>
        dsimp only
        split
        · exact .bind fun _ => .ok response
        · exact .ok response
      | none =>
        dsimp only
        split
        · rename_i hretry
          split
          · exact .breakOff
          · refine .bind fun _ => .bind fun s => .bind fun _ => ?_
            split
            · exact ih outcome hretry
            · exact .cancelled
        · exact neverExhausted_giveUp outcome number

theorem neverExhausted_rawSearch (params : Params) : NeverExhausted (e.rawSearch params) := by
  unfold rawSearch
  cases params.check with
  | error cause => exact .invalid cause
  | ok _ => exact e.neverExhausted_attempts params.encode 1

/-- The engine does not say that there are no more pages, whoever fires the token. -/
theorem neverExhausted_execute (params : Params) : NeverExhausted (e.execute params) := by
  intro s direction
  rw [run_execute]
  exact e.decoded_ne_exhausted params (e.neverExhausted_rawSearch params s direction)

end Engine

theorem Interceptor.Watches.isTruthful {i : Interceptor σ} (h : i.Watches) : i.IsTruthful := by
  intro next hnext params s direction
  obtain ⟨before, after, -, -, hrun⟩ := h params next s
  rw [hrun]
  exact hnext params _ direction

theorem neverExhausted_keep (cache : Nat) (key : String) (page : Page) :
    NeverExhausted (do
      if ← storePage cache key page then return .ok page
      else Search.breakOff : Search σ (Result Page)) := by
  refine .bind fun kept => ?_
  cases kept with
  | true => exact .ok page
  | false => exact .breakOff

theorem isTruthful_caching (cache : Nat) :
    Interceptor.IsTruthful (caching cache : Interceptor σ) := by
  intro next hnext params
  refine .bind fun found => ?_
  cases found with
  | some page => exact .bind fun _ => .ok page
  | none =>
    intro s direction h
    rw [Search.run_bind] at h
    cases hresult : ((next.run params).run s).1 with
    | error error =>
      rw [hresult] at h
      exact hnext params s direction (hresult.trans h)
    | ok page =>
      rw [hresult] at h
      exact neverExhausted_keep cache params.cacheKey page _ direction h

/-- The interceptors that settings ask for are truthful, if those that they bring with them are. -/
theorem isTruthful_interceptorsFrom {fittings : List (Fitting σ)}
    (hcustom : ∀ i, .custom i ∈ fittings → Interceptor.IsTruthful i) (place : Nat) :
    ∀ i ∈ Settings.interceptorsFrom place fittings, Interceptor.IsTruthful i :=
  forall_interceptorsFrom watches_logging.isTruthful (fun hooks => (watches_hooks hooks).isTruthful)
    isTruthful_caching hcustom place

theorem neverExhausted_through (e : Engine σ) {interceptors : List (Interceptor σ)}
    (h : ∀ i ∈ interceptors, i.IsTruthful) (params : Params) :
    NeverExhausted ((Next.through e interceptors).run params) := by
  induction interceptors generalizing params with
  | nil => exact e.neverExhausted_execute params
  | cons i rest ih =>
    have hrest := ih fun j hj => h j (List.mem_cons_of_mem i hj)
    exact h i List.mem_cons_self _ hrest params

namespace Client

variable {c : Client σ}

theorem neverExhausted_search (h : ∀ i ∈ c.interceptors, i.IsTruthful) (params : Params) :
    NeverExhausted (c.search params) := by
  refine .bind fun _ => ?_
  cases params.check with
  | error cause => exact .invalid cause
  | ok _ => exact neverExhausted_through c.engine h params

/-! ## Turning pages -/

theorem searchNext_of_hasMore {p : Page} (h : p.hasMore = true) :
    c.searchNext p = c.search { p.params with start := p.nextStart } :=
  if_pos h

theorem searchPrevious_of_hasPrevious {p : Page} (h : p.hasPrevious = true) :
    c.searchPrevious p = c.search { p.params with start := p.previousStart } :=
  if_pos h

theorem searchNext_of_not_hasMore {p : Page} (h : p.hasMore = false) :
    c.searchNext p = pure (.error (.exhausted .next)) :=
  if_neg (Bool.not_eq_true _ ▸ h)

theorem searchPrevious_of_not_hasPrevious {p : Page} (h : p.hasPrevious = false) :
    c.searchPrevious p = pure (.error (.exhausted .previous)) :=
  if_neg (Bool.not_eq_true _ ▸ h)

/-- A search through interceptors that only watch sends its one request up to the outcome that
decides it. -/
theorem exchanges_search (hwatch : ∀ i ∈ c.interceptors, i.Watches) {params : Params}
    (hvalid : params.check = .ok ()) (s : Session σ) :
    ∃ n, c.engine.StopsAt params s.server n ∧
      Happening.exchanges ((c.search params).run s).2.trace =
        Happening.exchanges s.trace ++ List.replicate n (c.engine.method, params.encode) := by
  obtain ⟨before, after, hbefore, hafter, hrun⟩ := run_search_of_watchers hwatch params s
  have hfresh : ((s.under .fresh).seeing before).token = .fresh := rfl
  obtain ⟨n, hstops, hsends⟩ := c.engine.rawSearch_sends params _ hvalid hfresh
  refine ⟨n, hstops, ?_⟩
  rw [hrun]
  show Happening.exchanges (_ ++ after) = _
  rw [Happening.exchanges_append, hafter, List.append_nil, Engine.run_execute, hsends.exchanges]
  show Happening.exchanges (s.trace ++ before) ++ _ = _
  rw [Happening.exchanges_append, hbefore, List.append_nil]

/-- From a page the client comes back to the page before it: it sends the request for where that
page starts, as often as failures that may pass want, and nothing else; if the server still has the
page there, the page is what comes of it. -/
structure LeadsBack (c : Client σ) (p p' : Page) : Prop where
  hasPrevious : p'.hasPrevious = true
  search : c.searchPrevious p' = c.search { p.params with start := p.start }
  sends : ∀ s, ∃ n, c.engine.StopsAt { p.params with start := p.start } s.server n ∧
    Happening.exchanges ((c.searchPrevious p').run s).2.trace = Happening.exchanges s.trace ++
      List.replicate n (c.engine.method, { p.params with start := p.start }.encode)
  returns : ∀ s response page,
    (c.engine.transport.exchange c.engine.method { p.params with start := p.start }.encode
      s.server).1 = .ok response →
    response.status = 200 → c.engine.decode response = .ok page →
    { page with params := p.params } = p →
    ∃ s', (c.searchPrevious p').run s =
      (.ok { p with params := { p.params with start := p.start } }, s')

/-- Whoever goes on to the next page can come back. -/
theorem leadsBack (hwatch : ∀ i ∈ c.interceptors, i.Watches) {p p' : Page} {s s' : Session σ}
    (hmore : p.hasMore = true) (hwide : 0 < p.perPage)
    (hrun : (c.searchNext p).run s = (.ok p', s')) (hfollows : p'.Follows p) :
    c.LeadsBack p p' := by
  rw [searchNext_of_hasMore hmore] at hrun
  have hparams : p'.params = { p.params with start := p.nextStart } :=
    (search_of_watchers hwatch hrun).2.1 p' rfl
  have hok : ((c.searchWith .fresh { p.params with start := p.nextStart }).run s).1.isOk = true :=
    congrArg (fun r => Except.isOk r.1) hrun
  obtain ⟨hresults, hstart⟩ := inBounds_of_searchWith hok
  have hnext : p.nextStart.toNat ≤ 30000 := hstart
  have hvalid : Params.check { p.params with start := p.start } = .ok () := by
    rw [Page.toNat_nextStart hmore] at hnext
    exact Params.check_eq_ok_iff.mpr ⟨hresults, Nat.le_trans (Nat.le_add_right _ _) hnext⟩
  have hprevious := hfollows.hasPrevious hmore hwide
  have hsearch : c.searchPrevious p' = c.search { p.params with start := p.start } := by
    rw [searchPrevious_of_hasPrevious hprevious, hfollows.previousStart hmore, hparams]
  refine ⟨hprevious, hsearch, fun t => ?_,
    fun t response page hexchange hstatus hdecode hpage => ?_⟩
  · rw [hsearch]
    exact exchanges_search hwatch hvalid t
  · rw [hsearch]
    obtain ⟨t', ht⟩ := exists_run_search_of_page hwatch hvalid hexchange hstatus hdecode
    have hsame : { page with params := { p.params with start := p.start } } =
        { p with params := { p.params with start := p.start } } :=
      congrArg (fun q : Page => { q with params := { p.params with start := p.start } }) hpage
    exact ⟨t', hsame ▸ ht⟩

/-- **Turning pages** is exact, whatever counts a page was given. There is a next page exactly if
this one ends before the total, and it starts where this one ends. Whoever goes on to it, past no
interceptors or such as only watch, can come back. At either end nothing happens but that the client
says so, and it never says so elsewhere, unless an interceptor does. -/
theorem navigation_exact (c : Client σ) :
    (∀ p : Page,
      (p.hasMore = true ↔
        0 < p.total.toNat ∧ p.start.toNat + p.perPage.toNat < p.total.toNat) ∧
      (p.hasMore = true → p.nextStart.toNat = p.start.toNat + p.perPage.toNat)) ∧
    ((∀ i ∈ c.interceptors, i.Watches) → ∀ (p p' : Page) (s s' : Session σ), p.hasMore = true →
      0 < p.perPage → (c.searchNext p).run s = (.ok p', s') → p'.Follows p → c.LeadsBack p p') ∧
    (∀ p : Page, p.hasMore = false →
      ∀ s, (c.searchNext p).run s = (.error (.exhausted .next), s)) ∧
    (∀ p : Page, p.hasPrevious = false →
      ∀ s, (c.searchPrevious p).run s = (.error (.exhausted .previous), s)) ∧
    ((∀ i ∈ c.interceptors, i.IsTruthful) → ∀ (p : Page) (s : Session σ) (direction : Exhausted),
      (((c.searchNext p).run s).1 = .error (.exhausted direction) → p.hasMore = false) ∧
      (((c.searchPrevious p).run s).1 = .error (.exhausted direction) →
        p.hasPrevious = false)) := by
  refine ⟨fun p => ⟨Page.hasMore_iff, Page.toNat_nextStart⟩,
    fun hwatch p p' s s' hmore hwide hrun hfollows => leadsBack hwatch hmore hwide hrun hfollows,
    fun p hmore s => ?_, fun p hprevious s => ?_,
    fun htruthful p s direction => ⟨fun h => ?_, fun h => ?_⟩⟩
  · rw [searchNext_of_not_hasMore hmore]
    rfl
  · rw [searchPrevious_of_not_hasPrevious hprevious]
    rfl
  · rw [← Bool.not_eq_true]
    intro hmore
    rw [searchNext_of_hasMore hmore] at h
    exact neverExhausted_search htruthful _ s direction h
  · rw [← Bool.not_eq_true]
    intro hprevious
    rw [searchPrevious_of_hasPrevious hprevious] at h
    exact neverExhausted_search htruthful _ s direction h

/-- A client without interceptors whose server has two pages of one entry. -/
def direct : Client Unit :=
  { twofold with interceptors := [] }

/-- The client goes on from the first page to the second and can come back; there is no page after
the second and none before the first. The client that overreaches says that there is no next page
only where there is none. -/
theorem navigation_exact_direct :
    (∃ p' s', (direct.searchNext (oneOfTwo 0)).run idle = (.ok p', s') ∧
      direct.LeadsBack (oneOfTwo 0) p' ∧
      (direct.searchNext p').run s' = (.error (.exhausted .next), s')) ∧
    (direct.searchPrevious (oneOfTwo 0)).run idle = (.error (.exhausted .previous), idle) ∧
    ∀ p s, ((straying.searchNext p).run s).1 = .error (.exhausted .next) → p.hasMore = false := by
  obtain ⟨-, hback, hlast, hfirst, -⟩ := navigation_exact direct
  obtain ⟨-, -, -, -, htruthful⟩ := navigation_exact straying
  have hnone : ∀ i ∈ direct.interceptors, i.Watches := fun _ hi => nomatch hi
  have hstraying : ∀ i ∈ straying.interceptors, i.IsTruthful := by
    refine isTruthful_interceptorsFrom ?_ 0
    intro i hi next hnext params
    obtain rfl : i = overreaching := by simpa using hi
    exact .bind fun _ => hnext _
  have hother : { Params.default with start := 1 }.encode ≠ Params.default.encode := by
    decide +kernel
  have hvalid : Params.check { Params.default with start := 1 } = .ok () := rfl
  obtain ⟨s', hrun⟩ := exists_run_search_of_page (c := direct) (s := idle) hnone hvalid rfl rfl rfl
  refine ⟨⟨_, s', hrun, ?_, ?_⟩, hfirst _ rfl idle,
    fun p s h => (htruthful hstraying p s .next).1 h⟩
  · rw [if_neg hother] at hrun ⊢
    exact hback hnone _ _ idle s' rfl (by decide) hrun ⟨rfl, rfl, by decide⟩
  · rw [if_neg hother]
    exact hlast _ rfl s'

end Client

end PaperSearch
