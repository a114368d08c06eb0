import PaperSearch.Cli.Program
import PaperSearch.Proofs.Client.Ending

/-!
# What the program lists

With `--all` the program calls `Iter.next` until it has as many entries as it may print, or there
are no more. `exists_calls` finds the calls behind `Iter.take`, and `Listing` is the account of a
run: the entries that are printed are the first of the pages that were fetched, and no call asks
for more. The other way round, calls that give enough entries (`AreEnough`) make a run come to its
end, by `take_of_calls`.
-/

namespace PaperSearch

variable {σ : Type}

/-- Calls that follow one another with nothing in between. -/
def Consecutive : Cancellation → Session σ → List (Call σ) → Session σ → Prop
  | _, s, [], s' => s = s'
  | token, s, call :: calls, s' =>
    call.token = token ∧ call.before = s ∧ Consecutive call.tokenAfter call.after calls s'

/-- What has been answered to some calls. -/
def answered (calls : List (Call σ)) : List Entry :=
  calls.filterMap fun call => call.answer

/-! ## The calls behind a listing -/

/-- Entries are taken by calls, as many as are asked for unless they are over before. -/
theorem exists_calls {c : Client σ} {n : Nat} {it it' : Iter} {s s' : Session σ}
    {entries : List Entry} (h : it.take c n s = some ((entries, it'), s')) :
    ∃ calls, Calls c it calls it' ∧ Consecutive it.token s calls s' ∧ answered calls = entries ∧
      calls.length ≤ n ∧
      (calls.length < n → ∃ call, calls.getLast? = some call ∧ call.answer = none) := by
  induction n generalizing it s entries with
  | zero =>
    cases h
    exact ⟨[], .none _, rfl, rfl, Nat.le_refl 0, fun hlt => absurd hlt (Nat.lt_irrefl 0)⟩
  | succ n ih =>
    unfold Iter.take at h
    obtain ⟨⟨⟨answer, it₁⟩, s₁⟩, hnext, h⟩ := Option.bind_eq_some_iff.mp h
    cases answer with
    | none =>
      cases h
      exact ⟨[⟨it.token, s, none, it'.token, s'⟩], .more _ hnext rfl (.none it'),
        ⟨rfl, rfl, rfl⟩, rfl, Nat.le_add_left 1 n, fun _ => ⟨_, rfl, rfl⟩⟩
    | some e =>
      obtain ⟨⟨⟨rest, it₂⟩, s₂⟩, hrest, h⟩ := Option.bind_eq_some_iff.mp h
      cases h
      obtain ⟨calls, hcalls, hconsecutive, hanswered, hlength, hshort⟩ := ih hrest
      refine ⟨⟨it.token, s, some e, it₁.token, s₁⟩ :: calls, .more _ hnext rfl hcalls,
        ⟨rfl, rfl, hconsecutive⟩, ?_, Nat.succ_le_succ hlength, ?_⟩
      · rw [← hanswered]
        rfl
      · intro hlt
        obtain ⟨call, hlast, hnone⟩ := hshort (Nat.lt_of_succ_lt_succ hlt)
        refine ⟨call, ?_, hnone⟩
        rw [List.getLast?_cons, hlast]
        rfl

/-- There are as many entries in the answers as may be printed, or the last of all is among them. -/
def AreEnough (n : Nat) (calls : List (Call σ)) : Prop :=
  n ≤ (answered calls).length ∨ ∃ call ∈ calls, call.answer = none

/-- When an iterator is done, nothing is answered any more. -/
theorem answered_eq_nil {c : Client σ} {it it' : Iter} {calls : List (Call σ)}
    (h : Calls c it calls it') (hdone : it.isDone = true) : answered calls = [] := by
  obtain ⟨record, rfl, hrecorded⟩ := exists_recorded h
  obtain ⟨hquiet, -⟩ := hrecorded.quiet hdone
  refine List.filterMap_eq_nil_iff.mpr fun call hcall => ?_
  obtain ⟨r, hr, rfl⟩ := List.mem_map.mp hcall
  exact (hquiet r hr).answer

/-- Calls that are enough are those by which entries are taken. -/
theorem take_of_calls {c : Client σ} {it it' : Iter} {calls : List (Call σ)}
    (h : Calls c it calls it') {n : Nat} {s s' : Session σ}
    (hconsecutive : Consecutive it.token s calls s') (henough : AreEnough n calls) :
    ∃ it₁ s₁, it.take c n s = some (((answered calls).take n, it₁), s₁) := by
  induction h generalizing n s with
  | none it =>
    rcases henough with hle | ⟨call, hcall, -⟩
    · obtain rfl := Nat.le_zero.mp hle
      exact ⟨it, s, rfl⟩
    · exact absurd hcall List.not_mem_nil
  | @more it it₁ it' calls call hnext htoken rest ih =>
    obtain ⟨hsame, rfl, hrest⟩ := hconsecutive
    rw [hsame] at hnext
    rw [← htoken] at hrest
    cases n with
    | zero => exact ⟨it, call.before, by rw [List.take_zero]; rfl⟩
    | succ n =>
      have hnext : it.next c call.before = some ((call.answer, it₁), call.after) := hnext
      unfold Iter.take
      rw [hnext]
      cases hanswer : call.answer with
      | none =>
        obtain ⟨made, hreturns⟩ := Iter.next_eq_some_iff.mp hnext
        have hnothing : answered (call :: calls) = [] := by
          rw [answered, List.filterMap_cons_none hanswer]
          exact answered_eq_nil rest (hreturns.isDone hanswer)
        exact ⟨it₁, call.after, by rw [hnothing]; rfl⟩
      | some e =>
        have hentry : answered (call :: calls) = e :: answered calls :=
          List.filterMap_cons_some hanswer
        have hrest' : AreEnough n calls := by
          rcases henough with hle | ⟨call', hcall', hnone⟩
          · rw [hentry] at hle
            exact .inl (Nat.le_of_succ_le_succ hle)
          · rcases List.mem_cons.mp hcall' with rfl | hcall'
            · rw [hanswer] at hnone
              cases hnone
            · exact .inr ⟨call', hcall', hnone⟩
        obtain ⟨it₂, s₂, htake⟩ := ih hrest hrest'
        refine ⟨it₂, s₂, ?_⟩
        rw [hentry, List.take_succ_cons]
        show (it₁.take c n call.after).bind _ = _
        rw [htake]
        rfl

/-- What has been answered to some calls are the first entries of the pages. -/
theorem Accounts.answered_eq {params : Params} {record : List (Record σ)}
    (h : Accounts params record) :
    answered (record.map Record.toCall) = (entriesOf (fetched record)).take record.length := by
  unfold answered
  rw [List.filterMap_map]
  exact h.given_eq (List.append_nil record).symm

/-- Calls that are only less than so many when the entries are over give the first so many. -/
theorem Accounts.answered_eq_take {params : Params} {record : List (Record σ)}
    (h : Accounts params record) {n : Nat} (hwithin : record.length ≤ n)
    (hshort : record.length < n → ∃ r, record.getLast? = some r ∧ r.answer = none) :
    answered (record.map Record.toCall) = (entriesOf (fetched record)).take n := by
  rw [h.answered_eq]
  rcases Nat.lt_or_ge record.length n with hlt | hge
  · -- the entries are over, so both lengths take all of them
    obtain ⟨r, hlast, hnone⟩ := hshort hlt
    rw [List.getLast?_eq_getElem?] at hlast
    have hlength := Nat.le_trans (h.length_le hlast hnone) (Nat.sub_le _ 1)
    rw [List.take_of_length_le hlength, List.take_of_length_le (Nat.le_trans hlength hwithin)]
  · rw [Nat.le_antisymm hwithin hge]

/-! ## The account of a run -/

/-- The account of a run that follows the results from page to page. -/
structure Listing (c : Client σ) (plan : Plan σ) (token : Cancellation) (s : Session σ)
    (result : Result (List Entry)) (s' : Session σ) (record : List (Record σ)) : Prop where
  /-- The run is these calls, and a report when an error ended them. -/
  calls : ∃ it s₁, Calls c (Iter.start plan.params token) (record.map Record.toCall) it ∧
    Consecutive token s (record.map Record.toCall) s₁ ∧
    s' = if it.lastError = some .overflow then s₁ else (it.reportStop.run s₁).2
  made : ∀ r ∈ record, r.IsMade c
  accounts : Accounts plan.params record
  /-- There is a call for each entry that may be printed, and no more. -/
  within : record.length ≤ plan.limit
  /-- The calls only stop earlier when the entries are over. -/
  short : record.length < plan.limit → ∃ r, record.getLast? = some r ∧ r.answer = none
  /-- The run breaks off exactly if one of its searches does. -/
  breaksOff : result = .error .overflow ↔ ∃ f ∈ fetched record, f.result = .error .overflow
  ending : result ≠ .error .overflow → plan.ending result =
    ⟨0, plan.output.render ((entriesOf (fetched record)).take plan.limit), ""⟩

/-- A run is a number of calls, and what they leave says how it ends. -/
theorem entries_eq {c : Client σ} {plan : Plan σ} {token : Cancellation} {s s₁ : Session σ}
    {entries : List Entry} {it : Iter} (hall : plan.all = true)
    (h : (Iter.start plan.params token).take c plan.limit s = some ((entries, it), s₁)) :
    plan.entries c token s = some (if it.lastError = some .overflow then (.error .overflow, s₁)
      else (.ok entries, (it.reportStop.run s₁).2)) := by
  unfold Plan.entries
  rw [if_pos hall, h]
  show (if it.lastError = some .overflow then _ else _) = _
  split
  · rfl
  · rfl

theorem exists_listing {c : Client σ} {plan : Plan σ} {token : Cancellation} {s s' : Session σ}
    {result : Result (List Entry)} (hall : plan.all = true)
    (h : plan.entries c token s = some (result, s')) :
    ∃ record, Listing c plan token s result s' record := by
  have htaken : ∃ r, (Iter.start plan.params token).take c plan.limit s = some r := by
    unfold Plan.entries at h
    rw [if_pos hall] at h
    obtain ⟨r, htake, -⟩ := Option.bind_eq_some_iff.mp h
    exact ⟨r, htake⟩
  obtain ⟨⟨⟨entries, it⟩, s₁⟩, htake⟩ := htaken
  rw [entries_eq hall htake] at h
  obtain ⟨calls, hcalls, hconsecutive, hanswered, hwithin, hshort⟩ := exists_calls htake
  obtain ⟨record, rfl, hrecorded⟩ := exists_recorded hcalls
  have haccounts : Accounts plan.params record :=
    ((Keeping.start plan.params token).recorded hrecorded).accounts
  have hbreaks : it.lastError = some .overflow ↔
      ∃ f ∈ fetched record, f.result = .error .overflow :=
    (hrecorded.tells (.start plan.params token)).lastError_eq_some_iff
  rw [List.length_map] at hwithin hshort
  have hshort' : record.length < plan.limit → ∃ r, record.getLast? = some r ∧ r.answer = none := by
    intro hlt
    obtain ⟨call, hlast, hnone⟩ := hshort hlt
    rw [List.getLast?_map] at hlast
    obtain ⟨r, hr, rfl⟩ := Option.map_eq_some_iff.mp hlast
    exact ⟨r, hr, hnone⟩
  have hentries : entries = (entriesOf (fetched record)).take plan.limit :=
    hanswered.symm.trans (haccounts.answered_eq_take hwithin hshort')
  refine ⟨record, ?_⟩
  split at h
  · rename_i hoverflow
    cases h
    exact ⟨⟨it, s', hcalls, hconsecutive, (if_pos hoverflow).symm⟩, hrecorded.isMade, haccounts,
      hwithin, hshort', ⟨fun _ => hbreaks.mp hoverflow, fun _ => rfl⟩, fun hne => absurd rfl hne⟩
  · rename_i hnone
    cases h
    refine ⟨⟨it, s₁, hcalls, hconsecutive, (if_neg hnone).symm⟩, hrecorded.isMade, haccounts,
      hwithin, hshort', ⟨nofun, fun h => absurd (hbreaks.mpr h) hnone⟩, fun _ => ?_⟩
    rw [hentries]
    rfl

/-- **Iteration.** The answers of any calls of an iterator are the first entries of the pages that
its searches fetch, each search being made when there is nothing left to give; and a run of the
program prints as many of them as it may, with no call after that and none when it may print none.
It comes to its end whenever there are calls that give it enough entries, and prints these. Only a
run one of whose searches breaks off prints nothing. -/
theorem iteration_accounts (c : Client σ) (token : Cancellation) :
    (∀ params calls it, Calls c (Iter.start params token) calls it →
      ∃ record, record.map Record.toCall = calls ∧ (∀ r ∈ record, r.IsMade c) ∧
        Accounts params record) ∧
    ∀ (plan : Plan σ) (s : Session σ), plan.all = true →
      (∀ result s', plan.entries c token s = some (result, s') →
        ∃ record, Listing c plan token s result s' record) ∧
      (∀ calls it s₁, Calls c (Iter.start plan.params token) calls it →
        Consecutive token s calls s₁ → AreEnough plan.limit calls →
        ∃ result s', plan.entries c token s = some (result, s') ∧
          (result ≠ .error .overflow → result = .ok ((answered calls).take plan.limit))) ∧
      (plan.limit = 0 → plan.entries c token s = some (.ok [], s)) := by
  refine ⟨fun params calls it h => exists_record h, fun plan s hall => ⟨?_, ?_, ?_⟩⟩
  · intro result s' h
    exact exists_listing hall h
  · intro calls it s₁ hcalls hconsecutive henough
    obtain ⟨it', s₂, htake⟩ := take_of_calls hcalls hconsecutive henough
    rw [entries_eq hall htake]
    split
    · exact ⟨_, _, rfl, fun hne => absurd rfl hne⟩
    · exact ⟨_, _, rfl, fun _ => rfl⟩
  · intro hlimit
    unfold Plan.entries
    rw [if_pos hall, hlimit]
    rfl

/-- A client that finds two entries, one on a page. -/
def paged : Client Unit where
  engine :=
    ⟨⟨fun _ _ _ => .zero, fun _ _ s => (.error (.other "closed"), s), fun _ _ s => s⟩,
      fun _ => .ok .default, .get, none, fun _ => 0⟩
  interceptors := [fun params _ => pure (.ok
    { Page.default with entries := [.default], start := params.start, perPage := 1, total := 2 })]

def resting : Session Unit where
  server := ()
  timing := .together
  clock := 0
  timer := 0
  limiter := .ofInterval .zero
  token := .fresh
  caches _ := .empty .zero 1
  trace := []

def onlyFirst : Plan Unit :=
  ⟨.default, .default, true, 1, .json⟩

/-- The iterator after the first entry. -/
def afterFirst : Iter :=
  ⟨{ Params.default with start := 1 }, .fresh, [], 1, false, none⟩

theorem next_paged :
    (Iter.start .default .fresh).next paged resting =
      some ((some .default, afterFirst), resting) := by
  rw [Iter.next]
  show Iter.next paged _ _ = _
  rw [Iter.next]
  rfl

/-- Of the two entries the first is printed, and no second page is fetched. -/
theorem iteration_accounts_paged :
    let calls : List (Call Unit) := [⟨.fresh, resting, some .default, .fresh, resting⟩]
    (∃ record : List (Record Unit), record.map Record.toCall = calls ∧
      (∀ r ∈ record, r.IsMade paged) ∧ Accounts .default record) ∧
    onlyFirst.entries paged .fresh resting = some (.ok [.default], resting) ∧
    (∃ record, Listing paged onlyFirst .fresh resting (.ok [.default]) resting record) ∧
    AreEnough onlyFirst.limit calls ∧
    (∃ result s', onlyFirst.entries paged .fresh resting = some (result, s') ∧
      (result ≠ .error .overflow → result = .ok [.default])) ∧
    { onlyFirst with limit := 0 }.entries paged .fresh resting = some (.ok [], resting) := by
  intro calls
  obtain ⟨haccounts, hruns⟩ := iteration_accounts paged .fresh
  obtain ⟨hlisting, hends, -⟩ := hruns onlyFirst resting rfl
  have hcalls : Calls paged (Iter.start .default .fresh) calls afterFirst :=
    .more _ next_paged rfl (.none afterFirst)
  have henough : AreEnough onlyFirst.limit calls := .inl (Nat.le_refl 1)
  have hentries : onlyFirst.entries paged .fresh resting = some (.ok [.default], resting) := by
    unfold Plan.entries
    show (Iter.take paged 1 (Iter.start .default .fresh) resting).bind _ = _
    unfold Iter.take
    rw [next_paged]
    rfl
  exact ⟨haccounts .default _ afterFirst hcalls, hentries, hlisting _ _ hentries, henough,
    hends _ _ resting hcalls ⟨rfl, rfl, rfl⟩ henough,
    (hruns { onlyFirst with limit := 0 } resting rfl).2.2 rfl⟩

end PaperSearch
