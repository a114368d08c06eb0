import PaperSearch.Proofs.Client.Draining
import PaperSearch.Proofs.Text.Digits
import PaperSearch.Proofs.Text.Percent

/-!
# What an iteration comes to

A server that holds some papers answers a request for a window of them with that window
(`Engine.Holds`). An iterator over such a server gives the papers from its start on, each once and
in order, up to the end of the last window that it asks for: it stops when there are no more papers
or when the next window would start too far on (`LastPage`).

`Iter.Covers` says so of an iterator in the middle of its work. It holds of one that fetches its
last page (`Covers.of_last`), of one that is refused the next (`Covers.of_refused`), and of one that
goes on (`Covers.more`); `exists_covers` follows by induction on how far the start may still move.
-/

namespace PaperSearch

variable {σ : Type}

/-! ## Windows -/

/-- The page shows the papers in a window. -/
structure Page.Shows (page : Page) (papers : List Entry) (offset width : UInt64) : Prop where
  total : page.total.toNat = papers.length
  start : page.start = offset
  perPage : page.perPage = width
  entries : page.entries = (papers.drop offset.toNat).take width.toNat

/-- The server has these papers, and answers what the parameters ask for, from wherever, with a
window of them. -/
def Engine.Holds (e : Engine σ) (papers : List Entry) (params : Params) : Prop :=
  ∀ server start, ∃ response page,
    (e.transport.exchange e.method { params with start }.encode server).1 = .ok response ∧
      response.status = 200 ∧ e.decode response = .ok page ∧
      page.Shows papers start params.maxResults

/-- The parameters of a later window, so many after the first. -/
def Params.later (params : Params) (n : Nat) : Params :=
  { params with start := UInt64.ofNat (params.start.toNat + params.maxResults.toNat * n) }

/-- The windows of this width are over after so many: there are no more papers, or the next one
would start too far on. -/
structure LastPage (total start width n : Nat) : Prop where
  pos : 1 ≤ n
  reached : total ≤ start + width * n ∨ 30000 < start + width * n
  least : ∀ i, 1 ≤ i → i < n → start + width * i < total ∧ start + width * i ≤ 30000

/-- Counts whose sum is one of 64 bits are added without overflow. -/
theorem toNat_add_of_lt {m n : UInt64} (h : m.toNat + n.toNat < UInt64.size) :
    (m + n).toNat = m.toNat + n.toNat := by
  rw [UInt64.toNat_add]
  exact Nat.mod_eq_of_lt h

/-- A window within bounds ends where a count of 64 bits can tell. -/
theorem Params.InBounds.stop_lt {params : Params} (h : params.InBounds) :
    params.start.toNat + params.maxResults.toNat < UInt64.size :=
  Nat.lt_of_le_of_lt (Nat.add_le_add h.2 h.1) (by decide)

theorem Page.Shows.hasMore_eq {page : Page} {papers : List Entry} {start width : UInt64}
    (h : page.Shows papers start width) (hsize : start.toNat + width.toNat < UInt64.size) :
    page.hasMore = decide (start.toNat + width.toNat < papers.length) := by
  unfold hasMore stop?
  rw [h.start, h.perPage, if_pos hsize]
  show (decide (0 < page.total) && decide (start + width < page.total)) = _
  rw [← Bool.decide_and]
  apply decide_eq_decide.mpr
  rw [UInt64.lt_iff_toNat_lt, UInt64.lt_iff_toNat_lt, toNat_add_of_lt hsize, h.total]
  exact ⟨And.right, fun hlt => ⟨Nat.lt_of_le_of_lt (Nat.zero_le _) hlt, hlt⟩⟩

theorem Params.later_zero (params : Params) : params.later 0 = params := by
  unfold later
  rw [Nat.mul_zero, Nat.add_zero, UInt64.ofNat_toNat]

/-- The parameters of the next window. -/
def Params.next (params : Params) : Params :=
  { params with start := params.start + params.maxResults }

theorem Params.InBounds.toNat_next {params : Params} (h : params.InBounds) :
    params.next.start.toNat = params.start.toNat + params.maxResults.toNat :=
  toNat_add_of_lt h.stop_lt

/-- What is later for the next window is one further on for this one. -/
theorem Params.InBounds.later_next {params : Params} (h : params.InBounds) (n : Nat) :
    params.next.later n = params.later (n + 1) := by
  unfold later
  rw [h.toNat_next, Nat.mul_succ, Nat.add_assoc, Nat.add_comm (params.maxResults.toNat * n)]
  rfl

/-- Parameters that ask for a window too far on are refused for that. -/
theorem Params.check_of_far {params : Params} (hresults : params.maxResults.toNat ≤ 2000)
    (hstart : 30000 < params.start.toNat) : params.check = .error .startTooLarge := by
  have hresults' : ¬ maxResultsLimit < params.maxResults := fun hlt =>
    absurd (UInt64.lt_iff_toNat_lt.mp hlt) (Nat.not_lt.mpr hresults)
  have hstart' : maxStart < params.start := UInt64.lt_iff_toNat_lt.mpr hstart
  unfold check
  rw [if_neg hresults', if_pos hstart']

theorem Engine.Holds.next {e : Engine σ} {papers : List Entry} {params : Params}
    (h : e.Holds papers params) : e.Holds papers params.next :=
  h

theorem LastPage.succ {total start width n : Nat} (hmore : start + width < total)
    (hbound : start + width ≤ 30000) (h : LastPage total (start + width) width n) :
    LastPage total start width (n + 1) := by
  have hshift : ∀ i, start + width * (i + 1) = start + width + width * i := by
    intro i
    rw [Nat.mul_succ]
    omega
  refine ⟨Nat.le_add_left 1 n, ?_, ?_⟩
  · rw [hshift]
    exact h.reached
  · intro i hpos hi
    obtain ⟨i, rfl⟩ := Nat.exists_eq_add_of_le' hpos
    rw [hshift]
    cases i with
    | zero => exact ⟨hmore, hbound⟩
    | succ i => exact h.least (i + 1) (Nat.le_add_left 1 i) (Nat.lt_of_succ_lt_succ hi)

/-! ## One window -/

namespace Iter

/-- An iterator that has nothing left to give, and makes a search when it is asked for more. -/
structure Searching (it : Iter) : Prop where
  buffer : it.buffer = []
  done : it.done = false
  token : it.token = .fresh
  lastError : it.lastError = none

/-- The iterator fetches a window of some papers. -/
structure Fetches (e : Engine σ) (papers : List Entry) (it : Iter) (s : Session σ) (it₁ : Iter)
    (s₁ : Session σ) : Prop where
  run : (it.fetch ⟨e, []⟩).run s = (it₁, s₁)
  buffer : it₁.buffer =
    (papers.drop it.params.start.toNat).take it.params.maxResults.toNat
  exchanges : Happening.exchanges s₁.trace =
    Happening.exchanges s.trace ++ [(e.method, it.params.encode)]
  lastError : it₁.lastError = none
  /-- If there are papers beyond the window, it goes on from there. -/
  more : it.params.start.toNat + it.params.maxResults.toNat < papers.length →
    it₁.emptied.Searching ∧ it₁.params = it.params.next
  last : papers.length ≤ it.params.start.toNat + it.params.maxResults.toNat → it₁.done = true

variable {e : Engine σ} {papers : List Entry} {it it₁ it' : Iter} {s s₁ s' : Session σ}

theorem exists_fetches (hit : it.Searching) (hholds : e.Holds papers it.params)
    (hbounds : it.params.InBounds) (hwidth : 1 ≤ it.params.maxResults.toNat) (s : Session σ) :
    ∃ it₁ s₁, Fetches e papers it s it₁ s₁ := by
  obtain ⟨response, page, hexchange, hstatus, hdecode, hshows⟩ :=
    hholds s.server it.params.start
  obtain ⟨s₁, hrun, hsent⟩ := run_fetch_of_page hit.token (Params.check_eq_ok_iff.mpr hbounds)
    hexchange hstatus hdecode
  have hmore := hshows.hasMore_eq hbounds.stop_lt
  have hperPage : 0 < page.perPage := by
    rw [hshows.perPage]
    exact UInt64.lt_iff_toNat_lt.mpr hwidth
  refine ⟨_, s₁, hrun, ?_, hsent, hit.lastError, ?_, ?_⟩
  · show it.buffer ++ page.entries = _
    rw [hit.buffer, hshows.entries]
    rfl
  · intro hlt
    have hmore' : page.hasMore = true := hmore.trans (decide_eq_true hlt)
    have hgoes : (page.hasMore && decide (0 < page.perPage)) = true := by
      rw [hmore', decide_eq_true hperPage]
      rfl
    refine ⟨⟨rfl, ?_, hit.token, hit.lastError⟩, ?_⟩
    · show (it.done || !(page.hasMore && decide (0 < page.perPage))) = false
      rw [hgoes, hit.done]
      rfl
    · show (if page.hasMore && decide (0 < page.perPage) then
        { it.params with start := page.nextStart } else it.params) = _
      rw [if_pos hgoes, Page.nextStart_of_hasMore hmore', hshows.start, hshows.perPage]
      rfl
  · intro hle
    show (it.done || !(page.hasMore && decide (0 < page.perPage))) = true
    rw [hmore, decide_eq_false (Nat.not_lt.mpr hle)]
    exact Bool.or_true it.done

/-! ## All windows -/

/-- Where an iteration over some papers comes to, in `n` windows. -/
structure Covers (e : Engine σ) (papers : List Entry) (it : Iter) (s : Session σ) (n : Nat)
    (it' : Iter) (s' : Session σ) : Prop where
  last : LastPage papers.length it.params.start.toNat it.params.maxResults.toNat n
  /-- The papers of the windows are given, each once and in order, and then no more. -/
  drains : it.Drains ⟨e, []⟩ s
    ((papers.drop it.params.start.toNat).take (it.params.maxResults.toNat * n)) it' s'
  /-- One request is sent for each window. -/
  exchanges : Happening.exchanges s'.trace = Happening.exchanges s.trace ++
    (List.range n).map fun i => (e.method, (it.params.later i).encode)
  ended : papers.length ≤ it.params.start.toNat + it.params.maxResults.toNat * n →
    it'.lastError = none
  refused : it.params.start.toNat + it.params.maxResults.toNat * n < papers.length →
    it'.lastError = some (.invalid .startTooLarge)

namespace Covers

/-- One window, after which no other is fetched. -/
theorem one (hit : it.Searching) (h : Fetches e papers it s it₁ s₁)
    (hstop : it₁.emptied.next ⟨e, []⟩ s₁ = some ((none, it'), s'))
    (hsent : Happening.exchanges s'.trace = Happening.exchanges s₁.trace)
    (hreached : papers.length ≤ it.params.start.toNat + it.params.maxResults.toNat ∨
      30000 < it.params.start.toNat + it.params.maxResults.toNat)
    (hended : papers.length ≤ it.params.start.toNat + it.params.maxResults.toNat →
      it'.lastError = none)
    (hrefused : it.params.start.toNat + it.params.maxResults.toNat < papers.length →
      it'.lastError = some (.invalid .startTooLarge)) :
    it.Covers e papers s 1 it' s' := by
  have hone : it.params.maxResults.toNat * 1 = it.params.maxResults.toNat := Nat.mul_one _
  have hdrains := Drains.fetch hit.buffer hit.done h.run (.stop hstop)
  rw [List.append_nil] at hdrains
  refine ⟨⟨Nat.le_refl 1, ?_, fun i hpos hi => absurd hi (Nat.not_lt.mpr hpos)⟩, ?_, ?_, ?_, ?_⟩
  · rw [hone]
    exact hreached
  · rw [hone, ← h.buffer]
    exact hdrains
  · rw [hsent, h.exchanges]
    show _ = _ ++ [(e.method, (it.params.later 0).encode)]
    rw [Params.later_zero]
  · rw [hone]
    exact hended
  · rw [hone]
    exact hrefused

/-- One window and those after it. -/
theorem more (hit : it.Searching) (h : Fetches e papers it s it₁ s₁)
    (hbounds : it.params.InBounds)
    (hmore : it.params.start.toNat + it.params.maxResults.toNat < papers.length)
    (hstart : it.params.start.toNat + it.params.maxResults.toNat ≤ 30000) {n : Nat}
    (hrest : it₁.emptied.Covers e papers s₁ n it' s') : it.Covers e papers s (n + 1) it' s' := by
  have hparams : it₁.emptied.params = it.params.next := (h.more hmore).2
  have hwidth : it.params.next.maxResults = it.params.maxResults := rfl
  have hshift : it.params.start.toNat + it.params.maxResults.toNat * (n + 1) =
      it.params.start.toNat + it.params.maxResults.toNat + it.params.maxResults.toNat * n := by
    rw [Nat.mul_succ]
    omega
  obtain ⟨hlast, hdrains, hsent, hended, hrefused⟩ := hrest
  rw [hparams, hwidth, hbounds.toNat_next] at hlast hdrains hended hrefused
  rw [hparams] at hsent
  refine ⟨hlast.succ hmore hstart, ?_, ?_, ?_, ?_⟩
  · have hfetched := Drains.fetch hit.buffer hit.done h.run hdrains
    rw [Nat.mul_succ, Nat.add_comm, List.take_add, List.drop_drop]
    rw [h.buffer] at hfetched
    exact hfetched
  · rw [hsent, h.exchanges, List.range_succ_eq_map, List.map_cons, List.map_map, Params.later_zero,
      List.append_assoc]
    simp only [hbounds.later_next]
    rfl
  · rw [hshift]
    exact hended
  · rw [hshift]
    exact hrefused

/-- The last window, which no papers are beyond. -/
theorem of_last (hit : it.Searching) (h : Fetches e papers it s it₁ s₁)
    (hle : papers.length ≤ it.params.start.toNat + it.params.maxResults.toNat) :
    it.Covers e papers s 1 it₁.emptied s₁ :=
  one hit h (next_of_done rfl (h.last hle)) rfl (Or.inl hle) (fun _ => h.lastError)
    fun hlt => absurd hle (Nat.not_le_of_lt hlt)

/-- A window that ends so far on that the next request is refused. -/
theorem of_refused (hit : it.Searching) (h : Fetches e papers it s it₁ s₁)
    (hbounds : it.params.InBounds)
    (hmore : it.params.start.toNat + it.params.maxResults.toNat < papers.length)
    (hstart : 30000 < it.params.start.toNat + it.params.maxResults.toNat) :
    ∃ it' s', it.Covers e papers s 1 it' s' := by
  obtain ⟨hsearching, hparams⟩ := h.more hmore
  have hcheck : it₁.emptied.params.check = .error .startTooLarge := by
    show it₁.params.check = _
    rw [hparams]
    refine Params.check_of_far hbounds.1 ?_
    rw [hbounds.toNat_next]
    exact hstart
  have hrefuses : (⟨e, []⟩ : Client σ).Refuses it₁.emptied.params _ :=
    Client.refuses_of_error hcheck
  have hnext := hrefuses.next it₁.emptied s₁ hsearching.buffer hsearching.done rfl
  refine ⟨_, _, one hit h hnext ?_ (Or.inr hstart) ?_ fun _ => rfl⟩
  · exact (Session.continues_see _ _).exchanges.trans (List.append_nil _)
  · intro hle
    exact absurd hmore (Nat.not_lt.mpr hle)

end Covers

theorem exists_covers (hit : it.Searching) (hholds : e.Holds papers it.params)
    (hbounds : it.params.InBounds) (hwidth : 1 ≤ it.params.maxResults.toNat) (s : Session σ) :
    ∃ n it' s', it.Covers e papers s n it' s' := by
  -- on how far the start may still move
  induction hleft : 30001 - it.params.start.toNat using Nat.strongRecOn generalizing it s with
  | _ left ih =>
    obtain ⟨it₁, s₁, hfetches⟩ := exists_fetches hit hholds hbounds hwidth s
    rcases Nat.lt_or_ge (it.params.start.toNat + it.params.maxResults.toNat) papers.length with
      hmore | hle
    · obtain ⟨hsearching, hparams⟩ := hfetches.more hmore
      rcases Nat.lt_or_ge 30000 (it.params.start.toNat + it.params.maxResults.toNat) with
        hfar | hnear
      · obtain ⟨it', s', hcovers⟩ := Covers.of_refused hit hfetches hbounds hmore hfar
        exact ⟨1, it', s', hcovers⟩
      · have hnext : it₁.emptied.params = it.params.next := hparams
        have hstart := hbounds.toNat_next
        have hbounds' : it.params.next.InBounds := ⟨hbounds.1, hstart.trans_le hnear⟩
        have hholds' := hholds.next
        have hwidth' : 1 ≤ it.params.next.maxResults.toNat := hwidth
        rw [← hnext] at hstart hbounds' hholds' hwidth'
        obtain ⟨n, it', s', hcovers⟩ := ih (30001 - it₁.emptied.params.start.toNat) (by omega)
          hsearching hholds' hbounds' hwidth' s₁ rfl
        exact ⟨n + 1, it', s', hcovers.more hit hfetches hbounds hmore hnear⟩
    · exact ⟨1, _, _, Covers.of_last hit hfetches hle⟩

end Iter

/-- **Coverage.** An iterator over a server that holds some papers gives those from its start on,
each once and in order, in as many windows as it takes, and then no more. It sends one request for
each window, and it ends with an error exactly if there are papers left. -/
theorem iteration_covers {e : Engine σ} {papers : List Entry} {params : Params}
    (hholds : e.Holds papers params) (hstart : params.start.toNat ≤ 30000)
    (hwidth : 1 ≤ params.maxResults.toNat) (hmost : params.maxResults.toNat ≤ 2000)
    (s : Session σ) :
    ∃ n it s', (Iter.start params .fresh).Covers e papers s n it s' := by
  have hsearching : (Iter.start params .fresh).Searching := ⟨rfl, rfl, rfl, rfl⟩
  exact Iter.exists_covers hsearching hholds ⟨hmost, hstart⟩ hwidth s

/-! ## A server that reads its requests -/

/-- Where a request says that it starts, if it says so first. -/
def startIn : List Char → UInt64
  | 's' :: 't' :: 'a' :: 'r' :: 't' :: '=' :: rest =>
    UInt64.ofNat ((Text.natural? (rest.takeWhile Text.isDigit)).getD 0)
  | _ => 0

theorem startIn_start (n : Nat) (rest : List Char) :
    startIn ('s' :: 't' :: 'a' :: 'r' :: 't' :: '=' :: (Text.decimal n ++ '&' :: rest)) =
      UInt64.ofNat n := by
  have hdigits : (Text.decimal n ++ '&' :: rest).takeWhile Text.isDigit = Text.decimal n := by
    rw [List.takeWhile_append_of_pos fun c hc => Text.isDigit_of_mem_decimal hc]
    exact List.append_nil _
  show UInt64.ofNat ((Text.natural? (List.takeWhile Text.isDigit _)).getD 0) = _
  rw [hdigits, Text.natural?_decimal]
  rfl

/-- What requests for two papers say is read back. -/
theorem startIn_encode (start : UInt64) :
    startIn { Params.default with start, maxResults := 2 }.encode.toList = start := by
  have hwords : Text.Percent.formEncode "start".toList = "start".toList ∧
      Text.Percent.formEncode "max_results".toList = "max_results".toList :=
    ⟨Text.Percent.formEncode_of_all_isFormSafeChar rfl,
      Text.Percent.formEncode_of_all_isFormSafeChar rfl⟩
  have hnumber : ∀ n, Text.Percent.formEncode (Text.decimal n) = Text.decimal n := fun n =>
    Text.Percent.formEncode_of_all_isFormSafeChar <| List.all_eq_true.mpr fun c hc =>
      Text.Percent.isFormSafeChar_of_isDigit (Text.isDigit_of_mem_decimal hc)
  have hpairs : { Params.default with start, maxResults := 2 }.pairs =
      Params.pairUnlessZero "start" start ++ [("max_results".toList, Text.decimal 2)] := by
    show Params.pairUnlessZero "start" start ++ [("max_results".toList, Text.decimal 2)] ++ [] ++
      [] = _
    rw [List.append_nil, List.append_nil]
  unfold Params.encode
  rw [String.toList_ofList, hpairs]
  unfold Params.pairUnlessZero
  split
  · rename_i hzero
    rw [hzero]
    show startIn (Text.Percent.formEncode "max_results".toList ++ '=' :: _) = 0
    rw [hwords.2]
    rfl
  · show startIn (Text.Percent.formEncode "start".toList ++ '=' ::
      Text.Percent.formEncode (Text.decimal start.toNat) ++ '&' :: _) = start
    rw [hwords.1, hnumber]
    exact (startIn_start start.toNat _).trans UInt64.ofNat_toNat

/-- The page with two of some papers. -/
def twoFrom (papers : List Entry) (start : UInt64) : Page :=
  { Page.default with
    entries := (papers.drop start.toNat).take 2
    start
    perPage := 2
    total := UInt64.ofNat papers.length }

/-- A server that answers requests for two papers from its own. -/
def library (papers : List Entry) : Engine Unit :=
  ⟨⟨fun _ _ _ => .zero, fun _ encoded s => (.ok ⟨200, encoded⟩, s), fun _ _ s => s⟩,
    fun response => .ok (twoFrom papers (startIn response.body.toList)), .get, none, fun _ => 0⟩

theorem library_holds {papers : List Entry} (hsize : papers.length < UInt64.size) :
    (library papers).Holds papers { Params.default with maxResults := 2 } := by
  intro server start
  have hdecode : (library papers).decode ⟨200,
      { Params.default with start, maxResults := 2 }.encode⟩ = .ok (twoFrom papers start) := by
    show Except.ok (twoFrom papers (startIn _)) = _
    rw [startIn_encode]
  have htotal : (twoFrom papers start).total.toNat = papers.length :=
    UInt64.toNat_ofNat_of_lt' hsize
  refine ⟨⟨200, { Params.default with start, maxResults := 2 }.encode⟩, twoFrom papers start,
    ?_, ?_, ?_, ?_⟩
  · rfl
  · rfl
  · exact hdecode
  · exact ⟨htotal, rfl, rfl, rfl⟩

def threePapers : List Entry :=
  [{ Entry.default with id := "a" }, { Entry.default with id := "b" },
    { Entry.default with id := "c" }]

/-- Three papers take two windows of two. -/
theorem iteration_covers_library :
    (library threePapers).Holds threePapers { Params.default with maxResults := 2 } ∧
      ∃ it s', (Iter.start { Params.default with maxResults := 2 } .fresh).Covers
          (library threePapers) threePapers idle 2 it s' ∧
        (Iter.start { Params.default with maxResults := 2 } .fresh).Drains
          ⟨library threePapers, []⟩ idle threePapers it s' := by
  have hholds : (library threePapers).Holds threePapers { Params.default with maxResults := 2 } :=
    library_holds (by decide)
  obtain ⟨n, it, s', hcovers⟩ := iteration_covers hholds (by decide) (by decide) (by decide) idle
  obtain rfl : n = 2 := by
    have hlast : LastPage 3 0 2 n := hcovers.last
    obtain ⟨hpos, hreached, hleast⟩ := hlast
    have hthird := hleast 2 (by decide)
    omega
  exact ⟨hholds, it, s', hcovers, hcovers.drains⟩

end PaperSearch
