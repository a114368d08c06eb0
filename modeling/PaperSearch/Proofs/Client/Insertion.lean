import PaperSearch.Proofs.Client.Blindness
import PaperSearch.Proofs.Client.Transparency

/-!
# Watchers that nobody notices

Interceptors that report searches or call hooks may be put anywhere into a list of interceptors, any
number of them (`Inserted`). If the others are blind, the same happens on both ways to the engine
(`Inserted.through_alike`, by induction on the list), and so in one search
(`Inserted.alike_searchWith`).

A caller may make any number of searches, and ask for each of them what it likes in view of what it
has found so far (`Client.searches`). `watchers_transparent` is such a course with the watchers,
beside the same course without them.
-/

namespace PaperSearch

variable {σ : Type}

open Search (Alike)

/-! ## Watchers among other interceptors -/

/-- What comes behind a watcher happens in a session that is alike, and so does what comes after. -/
theorem Search.Alike.watched {x : Search σ (Result Page)} {params : Params} {next : Next σ}
    (h : Alike x (next.run params)) {watcher : Interceptor σ} (hwatcher : watcher.Watches) :
    Alike x (watcher params next) := by
  intro s t hst
  obtain ⟨before, after, hbefore, hafter, hrun⟩ := hwatcher params next t
  obtain ⟨hresult, hsession⟩ := h s (t.seeing before) (hst.trans (.seeing t hbefore))
  rw [hrun]
  exact ⟨hresult, hsession.trans (.seeing _ hafter)⟩

/-- The second list is the first one with some more interceptors in it, and these only watch. -/
inductive Inserted : List (Interceptor σ) → List (Interceptor σ) → Prop
  | nil : Inserted [] []
  | keep (i : Interceptor σ) {plain watched : List (Interceptor σ)} (h : Inserted plain watched) :
      Inserted (i :: plain) (i :: watched)
  | insert {watcher : Interceptor σ} (hwatcher : watcher.IsWatcher)
      {plain watched : List (Interceptor σ)} (h : Inserted plain watched) :
      Inserted plain (watcher :: watched)

namespace Inserted

variable {plain watched : List (Interceptor σ)}

theorem through_alike (e : Engine σ) (h : Inserted plain watched)
    (hblind : ∀ i ∈ plain, i.IsBlind) :
    (Next.through e plain).Alike (Next.through e watched) := by
  induction h with
  | nil => exact e.alike_execute
  | keep i _ ih =>
    have hrest := ih fun j hj => hblind j (List.mem_cons_of_mem i hj)
    exact fun params => hblind i List.mem_cons_self params _ _ hrest
  | insert hwatcher _ ih => exact fun params => (ih hblind params).watched hwatcher.watches

theorem alike_searchWith (e : Engine σ) (h : Inserted plain watched)
    (hblind : ∀ i ∈ plain, i.IsBlind) (token : Cancellation) (params : Params) :
    Alike ((⟨e, plain⟩ : Client σ).searchWith token params)
      ((⟨e, watched⟩ : Client σ).searchWith token params) := by
  intro s t hst
  cases hcheck : params.check with
  | error cause =>
    rw [Client.run_searchWith_of_error hcheck, Client.run_searchWith_of_error hcheck]
    exact ⟨rfl, hst.under token⟩
  | ok _ =>
    rw [Client.run_searchWith_of_ok hcheck, Client.run_searchWith_of_ok hcheck]
    exact h.through_alike e hblind params _ _ (hst.under token)

end Inserted

/-! ## One search after another -/

/-- A search that is to be made, and what happens before it. -/
structure Errand (σ : Type) where
  meantime : Search σ Unit
  token : Cancellation
  params : Params

/-- So many searches one after another, each as the results of those before it ask for; the results
are put behind those that are there already. -/
def Client.searches (c : Client σ) (course : List (Result Page) → Errand σ) :
    Nat → List (Result Page) → Search σ (List (Result Page))
  | 0, found => return found
  | n + 1, found => do
    (course found).meantime
    let result ← c.searchWith (course found).token (course found).params
    searches c course n (found ++ [result])

theorem Inserted.alike_searches {plain watched : List (Interceptor σ)} (e : Engine σ)
    (h : Inserted plain watched) (hblind : ∀ i ∈ plain, i.IsBlind)
    {course : List (Result Page) → Errand σ}
    (hcourse : ∀ found, Alike (course found).meantime (course found).meantime) (n : Nat)
    (found : List (Result Page)) :
    Alike ((⟨e, plain⟩ : Client σ).searches course n found)
      ((⟨e, watched⟩ : Client σ).searches course n found) := by
  induction n generalizing found with
  | zero => exact .pure found
  | succ n ih =>
    exact (hcourse found).bind fun _ => (h.alike_searchWith e hblind _ _).bind fun _ => ih _

/-- **Watchers that nobody notices.** However many interceptors that report searches or call hooks
are put among interceptors that are blind, and wherever they are put: any course of searches gives
the same results and the same requests, at the same times, and leaves clock, server and caches as it
does without them. One that calls hooks calls each that it has once, the one before the rest of the
way and the other after it, both with the parameters as they came to it, and the other with the very
result that it hands back. -/
theorem watchers_transparent {plain watched : List (Interceptor σ)} (e : Engine σ)
    (hinserted : Inserted plain watched) (hblind : ∀ i ∈ plain, i.IsBlind)
    {course : List (Result Page) → Errand σ}
    (hcourse : ∀ found, Alike (course found).meantime (course found).meantime) (n : Nat)
    (s : Session σ) :
    let without := ((⟨e, plain⟩ : Client σ).searches course n []).run s
    let among := ((⟨e, watched⟩ : Client σ).searches course n []).run s
    among.1 = without.1 ∧
      Happening.exchanges among.2.trace = Happening.exchanges without.2.trace ∧
      Happening.exchangeTimes among.2.trace = Happening.exchangeTimes without.2.trace ∧
      without.2.Alike among.2 ∧
      ∀ (hooks : Hooks) (params : Params) (next : Next σ) (entered : Session σ),
        (hooks.interceptor params next).run entered =
          let inner := (next.run params).run
            (entered.seeing (hooks.onRequest.toList.map fun hook => .note (hook params)))
          (inner.1, inner.2.seeing
            (hooks.onResponse.toList.map fun hook => .note (hook params inner.1))) := by
  obtain ⟨hresults, hsession⟩ := hinserted.alike_searches e hblind hcourse n [] s s (.refl s)
  exact ⟨hresults.symm, hsession.exchanges, hsession.exchangeTimes, hsession, Hooks.run_interceptor⟩

/-- An interceptor that asks for one result at most. -/
def sparing : Interceptor σ := fun params next =>
  next.run { params with maxResults := min params.maxResults 1 }

theorem isBlind_sparing : Interceptor.IsBlind (sparing : Interceptor σ) :=
  fun _ _ _ hnext => hnext _

/-- Hooks that write down what is asked for, and whether something came of it. -/
def keeping : Hooks where
  onRequest := some fun params => params.query
  onResponse := some fun _ result => if result.isOk then "found" else "failed"

/-- Searches for both pages of a server, and for the first one again. -/
def bothAndFirstInTurn (found : List (Result Page)) : Errand Unit :=
  ⟨pure (), .fresh, bothAndFirst.getD found.length .default⟩

/-- Watchers are put before a cache, behind it and at the end of the way. -/
theorem watchers_transparent_sparing :
    let plain : List (Interceptor Unit) := [keeping.interceptor, logging, caching 0, sparing]
    let watched := [keeping.interceptor, keeping.interceptor, logging, caching 0, logging, sparing,
      keeping.interceptor]
    Inserted plain watched ∧ (∀ i ∈ plain, i.IsBlind) ∧
      (∀ found, Alike (bothAndFirstInTurn found).meantime (bothAndFirstInTurn found).meantime) ∧
      (((⟨twofold.engine, watched⟩ : Client Unit).searches bothAndFirstInTurn 3 []).run narrow).1 =
        (((⟨twofold.engine, plain⟩ : Client Unit).searches bothAndFirstInTurn 3 []).run narrow).1 ∧
      ∀ next : Next Unit, (keeping.interceptor { Params.default with query := "ti:x" } next).run
          narrow =
        let inner := (next.run { Params.default with query := "ti:x" }).run
          (narrow.seeing [.note "ti:x"])
        (inner.1, inner.2.seeing [.note (if inner.1.isOk then "found" else "failed")]) := by
  intro plain watched
  have hkeeping : Interceptor.IsWatcher (keeping.interceptor : Interceptor Unit) :=
    .inr ⟨keeping, rfl⟩
  have hinserted : Inserted plain watched :=
    .insert hkeeping (.keep _ (.keep _ (.keep _ (.insert (.inl rfl) (.keep _
      (.insert hkeeping .nil))))))
  have hblind : ∀ i ∈ plain, i.IsBlind := by
    intro i hi
    simp only [plain, List.mem_cons, List.not_mem_nil, or_false] at hi
    rcases hi with rfl | rfl | rfl | rfl
    · exact isBlind_hooks keeping
    · exact isBlind_logging
    · exact isBlind_caching 0
    · exact isBlind_sparing
  have hcourse : ∀ found,
      Alike (bothAndFirstInTurn found).meantime (bothAndFirstInTurn found).meantime :=
    fun _ => .pure ()
  obtain ⟨hresults, -, -, -, hhooks⟩ :=
    watchers_transparent twofold.engine hinserted hblind hcourse 3 narrow
  exact ⟨hinserted, hblind, hcourse, hresults, fun next => hhooks keeping _ next narrow⟩

end PaperSearch
