import Mathlib.Data.List.Nodup
import PaperSearch.Proofs.Client.Sharing

/-!
# What a full cache lets go

A cache with room for everything, that forgets nothing before it is cleared, would hold the page
that was stored last under each key (`Cache.recent`, `mem_recent_iff`). A cache with less room lets
some of these go. It is compared with the other one after any deeds in order of time
(`Cache.InOrder`), such as those of searches that share it (`inOrder_of_runs`): its fresh pages
are always the last so many of the fresh ones there (`InOrder.trails`), by induction on the deeds.

A page that is still fresh goes when another one is stored only if there are as many fresh pages as
there is room for, and then it is the one stored first (`evicts_iff`). Mostly this is needed. It is
not if the new page takes the place of another fresh one: the cache makes room for it all the same
(`needed_iff`). Where that does not happen, nor room is made for a page that cannot be kept, the
cache holds as many of the pages that were stored last as there is room for (`InOrder.complete`).
-/

namespace PaperSearch.Cache

open Time

/-! ## Deeds in order of time -/

/-- Some deeds were done one after another, each page was stored later than those before it, and it
is not yet later than so many nanoseconds. -/
inductive InOrder : List Deed → Nat → Prop
  | start (now : Nat) : InOrder [] now
  | later {deeds : List Deed} {now later : Nat} (h : InOrder deeds now) (hle : now ≤ later) :
      InOrder deeds later
  | lookup {deeds : List Deed} {now : Nat} (h : InOrder deeds now) (key : String) :
      InOrder (deeds ++ [.lookup key now]) now
  | store {deeds : List Deed} {now : Nat} (h : InOrder deeds now)
      (hlast : ∀ key page time, .store key page time ∈ deeds → time < now) (key : String)
      (page : Page) : InOrder (deeds ++ [.store key page now]) now
  | makeRoom {deeds : List Deed} {now : Nat} (h : InOrder deeds now) :
      InOrder (deeds ++ [.makeRoom now]) now
  | clear {deeds : List Deed} {now : Nat} (h : InOrder deeds now) : InOrder (deeds ++ [.clear]) now

/-- The time of a store. -/
def Deed.stored? : Deed → Option Nat
  | .store _ _ time => some time
  | _ => none

/-- Each page is stored later than those before it. -/
def StoresApart (deeds : List Deed) : Prop :=
  (deeds.filterMap Deed.stored?).Pairwise (· < ·)

theorem StoresApart.of_append {deeds more : List Deed} (h : StoresApart (deeds ++ more)) :
    StoresApart deeds :=
  h.sublist ((List.sublist_append_left deeds more).filterMap _)

theorem InOrder.store_of_apart {deeds : List Deed} {now : Nat} (h : InOrder deeds now)
    {key : String} {page : Page} (hapart : StoresApart (deeds ++ [.store key page now])) :
    InOrder (deeds ++ [.store key page now]) now := by
  rw [StoresApart, List.filterMap_append, List.pairwise_append] at hapart
  refine h.store (fun _ _ time hstore => ?_) key page
  exact hapart.2.2 time (List.mem_filterMap.mpr ⟨_, hstore, rfl⟩) now (List.mem_singleton_self _)

/-- What is done to a cache with a result that comes back is done then. -/
theorem InOrder.storing {deeds : List Deed} {now : Nat} (h : InOrder deeds now) {c : Cache}
    {key : String} {inner : Result Page} (hapart : StoresApart (deeds ++ c.storing key inner now)) :
    InOrder (deeds ++ c.storing key inner now) now := by
  unfold Cache.storing at hapart ⊢
  split
  · rw [List.append_nil]
    exact h
  · dsimp only at hapart
    split
    · rename_i hcan
      rw [if_pos hcan] at hapart
      exact h.store_of_apart hapart
    · exact h.makeRoom

section Runs

variable {σ : Type} {place : Nat}

theorem clock_of_run_caching {behind : Nat} {params : Params} {s s' : Session σ}
    {decision : Decision σ} (h : (Decider.caching place behind params).run s = (decision, s')) :
    s'.clock = s.clock := by
  rw [Decider.run_caching] at h
  split at h
  · cases h
    rfl
  · cases h
    rfl

theorem clock_of_run_keepPage {key : String} {inner result : Result Page} {s s' : Session σ}
    (h : (keepPage place key inner).run s = (result, s')) : s'.clock = s.clock := by
  obtain ⟨-, hclock, -⟩ := run_keepPage place key inner s
  rw [h] at hclock
  exact hclock

/-- Whatever searches share a cache, what they do to it is done in order of time. -/
theorem inOrder_of_runs {s : Session σ} (hempty : (s.caches place).pages = []) {deeds : List Deed}
    {w : Sharing σ} (hruns : Sharing.Runs place ⟨s, []⟩ deeds w) (hapart : StoresApart deeds) :
    InOrder deeds w.session.clock := by
  induction hruns with
  | start => exact .start _
  | @step deeds more w₁ w₂ hruns hstep ih =>
    have hbefore := ih hapart.of_append
    have hsound := hruns.sound (Sharing.sound_start hempty)
    cases hstep with
    | @arrive params behind decision s' sent hrun _ =>
      show InOrder _ s'.clock
      rw [clock_of_run_caching hrun]
      exact hbefore.lookup _
    | proceed _ _ hspares _ =>
      rw [List.append_nil]
      exact hbefore.later hspares.clock
    | turn =>
      rw [List.append_nil]
      exact hbefore
    | @leave i visit pass inner result s' sent hvisit hstage hrun _ =>
      obtain ⟨-, hmakes⟩ := (hsound.visits visit (List.mem_of_getElem? hvisit)).pass pass
        (by rw [hstage]; rfl)
      rw [(Decider.eq_of_makes_caching hmakes).2] at hrun
      show InOrder _ s'.clock
      rw [clock_of_run_keepPage hrun]
      exact hbefore.storing hapart
    | clear => exact hbefore.clear
    | meanwhile hspares =>
      rw [List.append_nil]
      exact hbefore.later hspares.clock

end Runs

/-! ## A cache with room for everything -/

/-- What the pages become with a deed, if there is room for all of them. -/
def remember (lifetime : Duration) (pages : List CachedPage) : Deed → List CachedPage
  | .lookup _ _ => pages
  | .makeRoom _ => pages
  | .store key page time =>
    pages.filter (fun p => p.key != key) ++ [⟨key, page, time + lifetime.nanoseconds⟩]
  | .clear => []

/-- The pages that were stored last under each key, in the order in which they were stored. -/
def recent (lifetime : Duration) (deeds : List Deed) : List CachedPage :=
  deeds.foldl (remember lifetime) []

section Recent

variable {lifetime : Duration} {deeds : List Deed} {now : Nat}

theorem recent_concat (lifetime : Duration) (deeds : List Deed) (deed : Deed) :
    recent lifetime (deeds ++ [deed]) = remember lifetime (recent lifetime deeds) deed :=
  List.foldl_concat ..

/-- What was stored last is so after one more deed unless that is another store under the key, or
clears the cache. -/
theorem lastStored_concat_iff {deed : Deed} {key : String} {page : Page} {time : Nat} :
    LastStored (deeds ++ [deed]) key page time ↔ deed = .store key page time ∨
      LastStored deeds key page time ∧
        deed ≠ .clear ∧ ∀ page time, deed ≠ .store key page time := by
  constructor
  · rintro ⟨before, later, hdeeds, hlater⟩
    rcases List.eq_nil_or_concat later with rfl | ⟨later', last, rfl⟩
    · exact .inl (List.singleton_inj.mp (List.append_inj' hdeeds rfl).2)
    · rw [List.concat_eq_append] at hdeeds hlater
      rw [← List.cons_append, ← List.append_assoc] at hdeeds
      obtain ⟨rfl, hlast⟩ := List.append_inj' hdeeds rfl
      obtain rfl := List.singleton_inj.mp hlast
      refine .inr ⟨⟨before, later', rfl, fun d hd => hlater d (List.mem_append_left _ hd)⟩, ?_⟩
      exact hlater deed List.mem_concat_self
  · rintro (rfl | ⟨hlast, hclear, hstore⟩)
    · exact lastStored_concat_store ..
    · exact hlast.concat hclear hstore

theorem mem_recent_iff {p : CachedPage} : p ∈ recent lifetime deeds ↔
    ∃ time, LastStored deeds p.key p.page time ∧ p.expires = time + lifetime.nanoseconds := by
  induction deeds using List.reverseRecOn with
  | nil =>
    refine ⟨fun hp => absurd hp List.not_mem_nil, fun ⟨_, hlast, _⟩ => ?_⟩
    exact absurd hlast.mem List.not_mem_nil
  | append_singleton deeds deed ih =>
    rw [recent_concat]
    cases deed with
    | lookup key time => simp [remember, lastStored_concat_iff, ih]
    | store key page time =>
      obtain ⟨key', page', expires⟩ := p
      by_cases hkey : key' = key
      · subst hkey
        simp [remember, lastStored_concat_iff, eq_comm]
      · simp [remember, lastStored_concat_iff, ih, hkey, Ne.symm hkey]
    | makeRoom time => simp [remember, lastStored_concat_iff, ih]
    | clear => simp [remember, lastStored_concat_iff]

/-- No two of them are under one key. -/
theorem nodup_recent (lifetime : Duration) (deeds : List Deed) :
    ((recent lifetime deeds).map CachedPage.key).Nodup := by
  induction deeds using List.reverseRecOn with
  | nil => exact .nil
  | append_singleton deeds deed ih =>
    rw [recent_concat]
    cases deed with
    | lookup key time => exact ih
    | store key page time =>
      rw [remember, List.map_append]
      refine (ih.sublist (List.filter_sublist.map _)).append (List.nodup_singleton _) ?_
      rw [List.map_singleton, List.disjoint_singleton]
      simp
    | makeRoom time => exact ih
    | clear => exact .nil

/-- They stand in the order in which they expire. -/
theorem InOrder.sorted_recent (h : InOrder deeds now) (lifetime : Duration) :
    (recent lifetime deeds).Pairwise fun p q => p.expires < q.expires := by
  induction h with
  | start => exact .nil
  | later _ _ ih => exact ih
  | lookup _ _ ih =>
    rw [recent_concat]
    exact ih
  | store _ hlast key page ih =>
    rw [recent_concat]
    refine List.pairwise_append.mpr ⟨ih.filter _, List.pairwise_singleton .., fun p hp q hq => ?_⟩
    obtain ⟨time, hstored, hexpires⟩ := mem_recent_iff.mp (List.mem_filter.mp hp).1
    rw [List.mem_singleton.mp hq, hexpires]
    exact Nat.add_lt_add_right (hlast _ _ _ hstored.mem) _
  | makeRoom _ ih =>
    rw [recent_concat]
    exact ih
  | clear =>
    rw [recent_concat]
    exact .nil

end Recent

/-! ## Fresh pages -/

def freshAt (c : Cache) (now : Nat) : List CachedPage :=
  c.pages.filter (·.isFresh now)

/-- The fresh pages that stay if room is made for another one. -/
def spared (c : Cache) (now : Nat) : List CachedPage :=
  if c.capacity ≤ (c.freshAt now).length then (c.freshAt now).tail else c.freshAt now

variable {c : Cache} {key : String} {now : Nat}

/-- What is fresh later is fresh now. -/
theorem filter_isFresh_isFresh (pages : List CachedPage) {later : Nat} (h : now ≤ later) :
    (pages.filter (·.isFresh now)).filter (·.isFresh later) = pages.filter (·.isFresh later) := by
  rw [List.filter_filter]
  refine List.filter_congr fun p _ => ?_
  have hfresh : later < p.expires → now < p.expires := Nat.lt_of_le_of_lt h
  simp only [CachedPage.isFresh, Bool.and_eq_left_iff_imp, decide_eq_true_eq]
  exact hfresh

theorem freshAt_makeRoom (c : Cache) (now : Nat) : (c.makeRoom now).freshAt now = c.spared now := by
  unfold makeRoom
  by_cases hfull : c.capacity ≤ c.size
  · have hstale : c.dropStale now = { c with pages := c.freshAt now } := if_pos hfull
    have hfresh : (c.freshAt now).filter (·.isFresh now) = c.freshAt now :=
      filter_isFresh_isFresh c.pages (Nat.le_refl now)
    rw [hstale]
    by_cases hthere : c.capacity ≤ (c.freshAt now).length
    · have holdest : ({ c with pages := c.freshAt now } : Cache).dropOldest =
          { c with pages := (c.freshAt now).tail } := if_pos hthere
      rw [holdest, spared, if_pos hthere]
      exact List.filter_eq_self.mpr fun p hp =>
        List.filter_eq_self.mp hfresh p (List.mem_of_mem_tail hp)
    · have holdest : ({ c with pages := c.freshAt now } : Cache).dropOldest =
          { c with pages := c.freshAt now } := if_neg hthere
      rw [holdest, spared, if_neg hthere]
      exact hfresh
  · have hstale : c.dropStale now = c := if_neg hfull
    have holdest : c.dropOldest = c := if_neg hfull
    have hless : (c.freshAt now).length ≤ c.size := List.length_filter_le ..
    rw [hstale, holdest, spared, if_neg (by omega)]

theorem filter_room (c : Cache) (key : String) (now : Nat) :
    (c.room key now).filter (·.isFresh now) = (c.spared now).filter fun p => p.key != key := by
  rw [← freshAt_makeRoom]
  exact List.filter_comm ..

/-- The fresh pages once another one has been stored. -/
theorem freshAt_store (c : Cache) (key : String) (page : Page) (now : Nat) :
    (c.store key page now).freshAt now = ((c.spared now).filter fun p => p.key != key) ++
      [⟨key, page, now + c.lifetime.nanoseconds⟩].filter (·.isFresh now) := by
  rw [store_eq, ← filter_room, ← List.filter_append]
  rfl

/-- A page that is looked up is forgotten only if it is stale. -/
theorem freshAt_lookup (hnodup : (c.pages.map CachedPage.key).Nodup) (key : String) (now : Nat) :
    (c.lookup key now).2.freshAt now = c.freshAt now := by
  unfold lookup find?
  split
  · rfl
  · rename_i p hfind
    have hkey := List.find?_some hfind
    split
    · rfl
    · rename_i hstale
      show (c.pages.filter fun p => p.key != key).filter (·.isFresh now) = _
      rw [List.filter_comm]
      refine List.filter_eq_self.mpr fun q hq => bne_iff_ne.mpr fun hother => ?_
      obtain ⟨hmem, hfresh⟩ := List.mem_filter.mp hq
      obtain rfl := List.inj_on_of_nodup_map hnodup hmem (List.mem_of_find?_eq_some hfind)
        (hother.trans (eq_of_beq hkey).symm)
      exact hstale hfresh

theorem spared_suffix (c : Cache) (now : Nat) : c.spared now <:+ c.freshAt now := by
  unfold spared
  split
  · exact List.tail_suffix _
  · exact List.suffix_refl _

/-! ## The invariant -/

/-- What the pages of a cache are to those of one with room for everything. -/
structure Trails (c : Cache) (deeds : List Deed) (now : Nat) : Prop where
  sublist : c.pages.Sublist (recent c.lifetime deeds)
  /-- The fresh ones are the last of the fresh ones there. -/
  suffix : c.freshAt now <:+ (recent c.lifetime deeds).filter (·.isFresh now)

/-- The fresh pages are all that there are, or as many as there is room for. -/
def IsComplete (c : Cache) (deeds : List Deed) (now : Nat) : Prop :=
  c.freshAt now = (recent c.lifetime deeds).filter (·.isFresh now) ∨
    c.capacity ≤ (c.freshAt now).length

/-- There are as many fresh pages as there is room for, and a page is to be stored in the place of
one of them, other than the one stored first. -/
def IsWasteful (c : Cache) (key : String) (now : Nat) : Prop :=
  c.capacity ≤ (c.freshAt now).length ∧ ∃ p ∈ (c.freshAt now).tail, p.key = key

namespace Trails

variable {deeds : List Deed}

theorem nodup (h : c.Trails deeds now) : (c.pages.map CachedPage.key).Nodup :=
  (nodup_recent c.lifetime deeds).sublist (h.sublist.map _)

theorem later (h : c.Trails deeds now) {later : Nat} (hle : now ≤ later) :
    c.Trails deeds later := by
  refine ⟨h.sublist, ?_⟩
  have hsuffix := h.suffix.filter (·.isFresh later)
  rw [freshAt, filter_isFresh_isFresh _ hle, filter_isFresh_isFresh _ hle] at hsuffix
  exact hsuffix

theorem lookup (h : c.Trails deeds now) (key : String) :
    (c.after (.lookup key now)).Trails (deeds ++ [.lookup key now]) now := by
  obtain ⟨pages, hpages, hsublist⟩ := c.lookup_eq key now
  have hfresh := freshAt_lookup h.nodup key now
  show (c.lookup key now).2.Trails _ now
  rw [hpages] at hfresh ⊢
  refine ⟨?_, ?_⟩
  · rw [recent_concat]
    exact hsublist.trans h.sublist
  · rw [hfresh, recent_concat]
    exact h.suffix

theorem store (h : c.Trails deeds now) (key : String) (page : Page) :
    (c.after (.store key page now)).Trails (deeds ++ [.store key page now]) now := by
  have hfresh := c.freshAt_store key page now
  show (c.store key page now).Trails _ now
  rw [store_eq] at hfresh ⊢
  refine ⟨?_, ?_⟩
  · rw [recent_concat]
    have hroom : c.room key now = (c.room key now).filter fun p => p.key != key :=
      (List.filter_eq_self.mpr fun p hp => bne_iff_ne.mpr (key_ne_of_mem_room hp)).symm
    refine List.Sublist.append ?_ (.refl _)
    rw [hroom]
    exact ((c.room_sublist key now).trans h.sublist).filter _
  · rw [hfresh, recent_concat, remember, List.filter_append, List.suffix_append_self_iff,
      List.filter_comm]
    exact ((c.spared_suffix now).trans h.suffix).filter _

theorem makeRoom (h : c.Trails deeds now) :
    (c.after (.makeRoom now)).Trails (deeds ++ [.makeRoom now]) now := by
  obtain ⟨pages, hpages⟩ := c.exists_makeRoom_eq now
  have hsublist := c.makeRoom_pages_sublist now
  have hfresh := c.freshAt_makeRoom now
  show (c.makeRoom now).Trails _ now
  rw [hpages] at hsublist hfresh ⊢
  refine ⟨?_, ?_⟩
  · rw [recent_concat]
    exact hsublist.trans h.sublist
  · rw [hfresh, recent_concat]
    exact (c.spared_suffix now).trans h.suffix

theorem clear (c : Cache) (deeds : List Deed) (now : Nat) :
    (c.after .clear).Trails (deeds ++ [.clear]) now :=
  ⟨List.nil_sublist _, List.nil_suffix⟩

end Trails

theorem InOrder.trails (hempty : c.pages = []) {deeds : List Deed} (h : InOrder deeds now) :
    (c.replay deeds).Trails deeds now := by
  induction h with
  | start now =>
    refine ⟨?_, ?_⟩
    · show c.pages.Sublist _
      rw [hempty]
      exact List.nil_sublist _
    · show c.freshAt now <:+ _
      rw [freshAt, hempty]
      exact List.nil_suffix
  | later _ hle ih => exact ih.later hle
  | lookup _ key ih =>
    rw [replay_append]
    exact ih.lookup key
  | store _ _ key page ih =>
    rw [replay_append]
    exact ih.store key page
  | makeRoom _ ih =>
    rw [replay_append]
    exact ih.makeRoom
  | clear _ ih =>
    rw [replay_append]
    exact Trails.clear ..

theorem InOrder.holds (hempty : c.pages = []) {deeds : List Deed} (h : InOrder deeds now) :
    (c.replay deeds).Holds deeds now := by
  induction h with
  | start now => exact holds_of_pages_eq_nil hempty now
  | later _ hle ih => exact ih.later hle
  | lookup _ key ih =>
    rw [replay_append]
    exact ih.lookup key _
  | store _ _ key page ih =>
    rw [replay_append]
    exact ih.store key page
  | makeRoom _ ih =>
    rw [replay_append]
    exact ih.makeRoom _
  | clear _ ih =>
    rw [replay_append]
    exact Holds.clear ..

theorem Holds.length_freshAt_le {deeds : List Deed} (h : c.Holds deeds now) :
    (c.freshAt now).length ≤ c.capacity :=
  Nat.le_trans (List.length_filter_le ..) h.size_le

/-! ## Pages that go -/

/-- A fresh page under another key goes when a page is stored. -/
def Evicts (c : Cache) (key : String) (page : Page) (now : Nat) (p : CachedPage) : Prop :=
  p ∈ c.freshAt now ∧ p.key ≠ key ∧ p ∉ (c.store key page now).pages

section Evicts

variable {deeds : List Deed} {page : Page} {p : CachedPage}

theorem mem_store_iff (hp : p ∈ c.freshAt now) (hkey : p.key ≠ key) :
    p ∈ (c.store key page now).pages ↔ p ∈ c.spared now := by
  have hnew : p ≠ ⟨key, page, now + c.lifetime.nanoseconds⟩ := by
    rintro rfl
    exact hkey rfl
  have hfresh : p.isFresh now := (List.mem_filter.mp hp).2
  have hroom : p ∈ c.room key now ↔ p ∈ c.spared now := by
    have hfilter := congrArg (p ∈ ·) (c.filter_room key now)
    simpa [List.mem_filter, hfresh, hkey] using hfilter
  rw [store_eq, List.mem_append, List.mem_singleton, hroom]
  exact or_iff_left hnew

theorem evicts_iff (h : c.Trails deeds now) : c.Evicts key page now p ↔
    c.capacity ≤ (c.freshAt now).length ∧ (c.freshAt now).head? = some p ∧ p.key ≠ key := by
  have hnodup : (c.freshAt now).Nodup := h.nodup.of_map.filter _
  constructor
  · rintro ⟨hp, hkey, hgone⟩
    rw [mem_store_iff hp hkey, spared] at hgone
    split at hgone
    · rename_i hfull
      refine ⟨hfull, ?_, hkey⟩
      rcases List.exists_cons_of_ne_nil (List.ne_nil_of_mem hp) with ⟨first, rest, hpages⟩
      rw [hpages] at hp hgone ⊢
      rcases List.mem_cons.mp hp with rfl | hrest
      · rfl
      · exact absurd hrest hgone
    · exact absurd hp hgone
  · rintro ⟨hfull, hhead, hkey⟩
    obtain ⟨rest, hpages⟩ := List.head?_eq_some_iff.mp hhead
    have hp : p ∈ c.freshAt now := hpages ▸ List.mem_cons_self
    refine ⟨hp, hkey, ?_⟩
    rw [mem_store_iff hp hkey, spared, if_pos hfull, hpages]
    rw [hpages] at hnodup
    exact (List.nodup_cons.mp hnodup).1

/-- The oldest page goes if there are as many fresh ones as there is room for, and so does the one
in whose place the new one is stored. -/
theorem Holds.freshAt_store_of_full (h : c.Holds deeds now)
    (hfull : c.capacity ≤ (c.freshAt now).length) (key : String) (page : Page) :
    (c.store key page now).freshAt now = ((c.freshAt now).tail.filter fun p => p.key != key) ++
      [⟨key, page, now + c.lifetime.nanoseconds⟩] := by
  -- pages are fresh for some time, since there is one
  obtain ⟨p, hp⟩ := List.exists_mem_of_length_pos (Nat.lt_of_lt_of_le c.capacity_pos hfull)
  obtain ⟨hmem, hfresh⟩ := List.mem_filter.mp hp
  have hnew : now < now + c.lifetime.nanoseconds :=
    Nat.lt_of_lt_of_le (of_decide_eq_true hfresh) (h.expires_le p hmem)
  rw [freshAt_store, spared, if_pos hfull]
  exact congrArg _ (List.filter_cons_of_pos (decide_eq_true hnew))

theorem needed_iff (h : c.Trails deeds now) (hholds : c.Holds deeds now)
    (hevicts : c.Evicts key page now p) :
    c.capacity < ((c.store key page now).freshAt now).length + 1 ↔ ¬ c.IsWasteful key now := by
  obtain ⟨hfull, hhead, -⟩ := (evicts_iff h).mp hevicts
  obtain ⟨rest, hpages⟩ := List.head?_eq_some_iff.mp hhead
  have hsize := hholds.length_freshAt_le
  have hkept : (rest.filter fun q => q.key != key).length = rest.length ↔
      ∀ q ∈ rest, q.key ≠ key := by
    simp only [List.length_filter_eq_length_iff, bne_iff_ne]
  have hless := rest.length_filter_le fun q => q.key != key
  rw [hholds.freshAt_store_of_full hfull, IsWasteful, hpages]
  rw [hpages] at hfull hsize
  simp only [List.tail_cons, List.length_append, List.length_cons, List.length_nil]
    at hfull hsize ⊢
  constructor
  · rintro hneeded ⟨-, q, hq, hkey⟩
    exact hkept.mp (by omega) q hq hkey
  · intro hwaste
    have hall := hkept.mpr fun q hq hkey => hwaste ⟨hfull, q, hq, hkey⟩
    omega

end Evicts

/-! ## Caches that waste nothing -/

/-- While there were as many fresh pages as there is room for, no page was stored in the place of a
fresh one, other than the one stored first, and no room was made for a page that cannot be kept. -/
structure IsThrifty (c : Cache) (deeds : List Deed) : Prop where
  stores : ∀ before key page time, before ++ [.store key page time] <+: deeds →
    ¬ (c.replay before).IsWasteful key time
  makesRoom : ∀ before time, before ++ [.makeRoom time] <+: deeds →
    ((c.replay before).freshAt time).length < (c.replay before).capacity

theorem IsThrifty.of_append {deeds more : List Deed} (h : c.IsThrifty (deeds ++ more)) :
    c.IsThrifty deeds :=
  ⟨fun before key page time hbegins =>
      h.stores before key page time (hbegins.trans (List.prefix_append ..)),
    fun before time hbegins => h.makesRoom before time (hbegins.trans (List.prefix_append ..))⟩

namespace IsComplete

variable {deeds : List Deed}

theorem later (hcomplete : c.IsComplete deeds now) (h : c.Trails deeds now)
    (hsorted : (recent c.lifetime deeds).Pairwise fun p q => p.expires < q.expires) {later : Nat}
    (hle : now ≤ later) : c.IsComplete deeds later := by
  have hfresh : c.freshAt later = (c.freshAt now).filter (·.isFresh later) :=
    (filter_isFresh_isFresh _ hle).symm
  unfold IsComplete
  rw [← filter_isFresh_isFresh (recent c.lifetime deeds) hle, hfresh]
  rcases hcomplete with heq | hfull
  · exact .inl (by rw [heq])
  · by_cases hall : ∀ p ∈ c.freshAt now, p.isFresh later
    · rw [List.filter_eq_self.mpr hall]
      exact .inr hfull
    · -- what was stored before a stale page is stale itself
      push Not at hall
      obtain ⟨p, hp, hstale⟩ := hall
      obtain ⟨earlier, hrecent⟩ := h.suffix
      have hpairwise := hsorted.filter (·.isFresh now)
      rw [← hrecent, List.pairwise_append] at hpairwise
      refine .inl ?_
      have hearlier : earlier.filter (·.isFresh later) = [] := by
        refine List.filter_eq_nil_iff.mpr fun q hq hfreshq => hstale ?_
        have hlt := hpairwise.2.2 q hq p hp
        exact decide_eq_true (Nat.lt_trans (of_decide_eq_true hfreshq) hlt)
      rw [← hrecent, List.filter_append, hearlier, List.nil_append]

theorem lookup (hcomplete : c.IsComplete deeds now) (h : c.Trails deeds now) (key : String) :
    (c.after (.lookup key now)).IsComplete (deeds ++ [.lookup key now]) now := by
  obtain ⟨pages, hpages, -⟩ := c.lookup_eq key now
  have hfresh := freshAt_lookup h.nodup key now
  show (c.lookup key now).2.IsComplete _ now
  rw [hpages] at hfresh ⊢
  unfold IsComplete
  rw [hfresh, recent_concat]
  exact hcomplete

theorem store (hcomplete : c.IsComplete deeds now) (hholds : c.Holds deeds now) {key : String}
    (hthrifty : ¬ c.IsWasteful key now) (page : Page) :
    (c.after (.store key page now)).IsComplete (deeds ++ [.store key page now]) now := by
  by_cases hfull : c.capacity ≤ (c.freshAt now).length
  · -- the oldest goes, and the new one comes
    have hkept : (c.freshAt now).tail.filter (fun p => p.key != key) = (c.freshAt now).tail :=
      List.filter_eq_self.mpr fun p hp => bne_iff_ne.mpr fun hkey => hthrifty ⟨hfull, p, hp, hkey⟩
    have hfresh := hholds.freshAt_store_of_full hfull key page
    refine .inr ?_
    show (c.store key page now).capacity ≤ ((c.store key page now).freshAt now).length
    have hcapacity : (c.store key page now).capacity = c.capacity := by rw [store_eq]
    rw [hcapacity, hfresh, hkept]
    simp only [List.length_append, List.length_tail, List.length_cons, List.length_nil]
    omega
  · have hfresh := c.freshAt_store key page now
    have hlifetime : (c.store key page now).lifetime = c.lifetime := by rw [store_eq]
    refine .inl ?_
    show (c.store key page now).freshAt now =
      List.filter _ (recent (c.store key page now).lifetime _)
    rw [hfresh, hlifetime, spared, if_neg hfull, hcomplete.resolve_right hfull, recent_concat,
      remember, List.filter_append, List.filter_comm]

theorem makeRoom (hcomplete : c.IsComplete deeds now)
    (hless : (c.freshAt now).length < c.capacity) :
    (c.after (.makeRoom now)).IsComplete (deeds ++ [.makeRoom now]) now := by
  obtain ⟨pages, hpages⟩ := c.exists_makeRoom_eq now
  have hfresh := c.freshAt_makeRoom now
  show (c.makeRoom now).IsComplete _ now
  rw [spared, if_neg (Nat.not_le_of_lt hless)] at hfresh
  rw [hpages] at hfresh ⊢
  unfold IsComplete
  rw [hfresh, recent_concat]
  exact hcomplete

/-- As many of the pages that were stored last as there is room for. -/
theorem eq_drop (hcomplete : c.IsComplete deeds now) (h : c.Trails deeds now)
    (hholds : c.Holds deeds now) :
    let stored := (recent c.lifetime deeds).filter (·.isFresh now)
    c.freshAt now = stored.drop (stored.length - c.capacity) := by
  intro stored
  have hsize := hholds.length_freshAt_le
  rcases hcomplete with heq | hfull
  · have heq : c.freshAt now = stored := heq
    rw [heq] at hsize ⊢
    rw [Nat.sub_eq_zero_of_le hsize, List.drop_zero]
  · have hdrop := List.suffix_iff_eq_drop.mp h.suffix
    rw [Nat.le_antisymm hsize hfull] at hdrop
    exact hdrop

end IsComplete

theorem InOrder.complete (hempty : c.pages = []) {deeds : List Deed} (h : InOrder deeds now)
    (hthrifty : c.IsThrifty deeds) : (c.replay deeds).IsComplete deeds now := by
  induction h with
  | start now =>
    refine .inl ?_
    show c.freshAt now = _
    rw [freshAt, hempty]
    rfl
  | later h hle ih =>
    exact (ih hthrifty).later (h.trails hempty) (h.sorted_recent _) hle
  | lookup h key ih =>
    rw [replay_append]
    exact (ih hthrifty.of_append).lookup (h.trails hempty) key
  | store h hlast key page ih =>
    rw [replay_append]
    exact (ih hthrifty.of_append).store (h.holds hempty)
      (hthrifty.stores _ key page _ (List.prefix_refl _)) page
  | makeRoom h ih =>
    rw [replay_append]
    exact (ih hthrifty.of_append).makeRoom (hthrifty.makesRoom _ _ (List.prefix_refl _))
  | clear =>
    rw [replay_append, IsComplete, recent_concat]
    exact .inl rfl

/-- **What a full cache lets go.** However many searches share a cache, the fresh pages in it are the
last of those that a cache with room for everything would hold, and no more than there is room for.
When another page is stored, a fresh page under another key goes just if there are as many as there
is room for and it is the one stored first. That is needed unless the new page takes the place of a
later one; if this has never happened, and room was never made in vain, the fresh pages in the cache
are as many of those stored last as there is room for. -/
theorem evicts_oldest {σ : Type} {place : Nat} {s : Session σ}
    (hempty : (s.caches place).pages = []) {deeds : List Deed} {w : Sharing σ}
    (hruns : Sharing.Runs place ⟨s, []⟩ deeds w) (hapart : StoresApart deeds) :
    let kept := w.session.caches place
    let now := w.session.clock
    let stored := (recent kept.lifetime deeds).filter (·.isFresh now)
    kept.freshAt now <:+ stored ∧ (kept.freshAt now).length ≤ kept.capacity ∧
      (∀ key page p, kept.Evicts key page now p ↔ kept.capacity ≤ (kept.freshAt now).length ∧
        (kept.freshAt now).head? = some p ∧ p.key ≠ key) ∧
      (∀ key page p, kept.Evicts key page now p →
        (kept.capacity < ((kept.store key page now).freshAt now).length + 1 ↔
          ¬ kept.IsWasteful key now)) ∧
      ((s.caches place).IsThrifty deeds →
        kept.freshAt now = stored.drop (stored.length - kept.capacity)) := by
  have hcache := (hruns.sound (Sharing.sound_start hempty)).cache
  have horder := inOrder_of_runs hempty hruns hapart
  have htrails := horder.trails hempty
  have hholds := horder.holds hempty
  intro kept now stored
  rw [← hcache] at htrails hholds
  refine ⟨htrails.suffix, hholds.length_freshAt_le, fun _ _ _ => evicts_iff htrails,
    fun _ _ _ hevicts => needed_iff htrails hholds hevicts, fun hthrifty => ?_⟩
  have hcomplete := horder.complete hempty hthrifty
  rw [← hcache] at hcomplete
  exact hcomplete.eq_drop htrails hholds

/-! ## Three searches for two pages -/

/-- A session with a cache that has room for two pages. -/
def roomy : Session Unit :=
  { narrow with caches := fun _ => .empty ⟨60⟩ 2 }

/-- What is done to a cache by three searches, two of them for the same papers, until the last of
them brings its page. -/
def crowded (key other : String) : List Deed :=
  [.lookup key 0, .lookup other 0, .lookup other 0, .store key .default 0, .store other .default 1]

theorem storesApart_crowded (key other : String) :
    StoresApart (crowded key other ++ [.store other .default 2]) := by
  show [0, 1, 2].Pairwise (· < ·)
  decide

theorem freshAt_crowded {key other : String} (hne : key ≠ other) :
    ((roomy.caches 0).replay (crowded key other)).freshAt 2 =
      [⟨key, .default, 60⟩, ⟨other, .default, 61⟩] := by
  simp [freshAt, CachedPage.isFresh, roomy, crowded, replay, after, lookup, find?, store, makeRoom,
    dropStale, dropOldest, erase, size, Cache.empty, hne]

/-- The last search may bring its page, or not yet. -/
theorem exists_runs_roomy (params params' : Params) :
    (∃ w, Sharing.Runs 0 ⟨roomy, []⟩ (crowded params.cacheKey params'.cacheKey) w ∧
      w.session.clock = 2) ∧
    ∃ w, Sharing.Runs 0 ⟨roomy, []⟩
      (crowded params.cacheKey params'.cacheKey ++ [.store params'.cacheKey .default 2]) w := by
  have hnone : ∀ key, (roomy.caches 0).lookup key 0 = (none, roomy.caches 0) := fun _ => rfl
  have hcome := (((Sharing.Runs.start (w := ⟨roomy, []⟩)).missed params (hnone _)).missed params'
    (hnone _)).missed params' (hnone _)
  have hlater : ∀ (s : Session Unit), s.Spares 0 { s with clock := s.clock + 1 } :=
    fun s => ⟨rfl, Nat.le_succ _⟩
  have hcan : ∀ now < 3, (roomy.caches 0).canStore now = true := by decide
  have hfirst := (hcome.brought (i := 0) rfl (hcan 0 (by decide)) .default).step
    (.meanwhile (hlater _))
  have hsecond := (hfirst.brought (i := 1) rfl (hcan 1 (by decide)) .default).step
    (.meanwhile (hlater _))
  exact ⟨⟨_, hsecond, rfl⟩, _, hsecond.brought (i := 2) rfl (hcan 2 (by decide)) .default⟩

/-- The oldest page makes room for one under a third key. -/
theorem evicts_oldest_roomy :
    let key := Params.default.cacheKey
    let other := { Params.default with start := 1 }.cacheKey
    let third := { Params.default with start := 2 }.cacheKey
    (roomy.caches 0).pages = [] ∧ StoresApart (crowded key other) ∧
      ∃ w, Sharing.Runs 0 ⟨roomy, []⟩ (crowded key other) w ∧
        (w.session.caches 0).Evicts third .default 2 ⟨key, .default, 60⟩ ∧
        2 < (((w.session.caches 0).store third .default 2).freshAt 2).length + 1 := by
  intro key other third
  have hne : key ≠ other ∧ key ≠ third ∧ other ≠ third := by decide +kernel
  have hapart : StoresApart (crowded key other) := (storesApart_crowded key other).of_append
  obtain ⟨⟨w, hruns, hclock⟩, -⟩ := exists_runs_roomy .default { Params.default with start := 1 }
  obtain ⟨-, -, hevicts, hneeded, -⟩ := evicts_oldest rfl hruns hapart
  have hcache := (hruns.sound (Sharing.sound_start rfl)).cache
  rw [hclock, hcache] at hevicts hneeded
  have hfresh := freshAt_crowded hne.1
  have hgoes := (hevicts third .default ⟨key, .default, 60⟩).mpr
    ⟨by rw [hfresh]; decide, by rw [hfresh]; rfl, hne.2.1⟩
  refine ⟨rfl, hapart, w, hruns, hcache ▸ hgoes, ?_⟩
  rw [hcache]
  refine (hneeded third .default _ hgoes).mpr ?_
  rw [IsWasteful, hfresh]
  rintro ⟨-, p, hp, hkey⟩
  cases List.mem_singleton.mp hp
  exact hne.2.2 hkey

/-- The page of the third search takes the place of that of the second. The page of the first goes
all the same, and the cache is left with one page where it has room for both. -/
theorem evicts_needlessly :
    let key := Params.default.cacheKey
    let other := { Params.default with start := 1 }.cacheKey
    let kept := (roomy.caches 0).replay (crowded key other)
    (∃ w, Sharing.Runs 0 ⟨roomy, []⟩ (crowded key other ++ [.store other .default 2]) w) ∧
      StoresApart (crowded key other ++ [.store other .default 2]) ∧
      kept.Evicts other .default 2 ⟨key, .default, 60⟩ ∧
      ¬ kept.capacity < ((kept.store other .default 2).freshAt 2).length + 1 := by
  intro key other kept
  have hne : key ≠ other := by decide +kernel
  have hfresh : kept.freshAt 2 = _ := freshAt_crowded hne
  obtain ⟨⟨w, hruns, hclock⟩, hruns'⟩ :=
    exists_runs_roomy .default { Params.default with start := 1 }
  have hapart := storesApart_crowded key other
  have horder := inOrder_of_runs rfl hruns hapart.of_append
  rw [hclock] at horder
  have htrails : kept.Trails (crowded key other) 2 := horder.trails rfl
  have hgoes : kept.Evicts other .default 2 ⟨key, .default, 60⟩ :=
    (evicts_iff htrails).mpr ⟨by rw [hfresh]; decide, by rw [hfresh]; rfl, hne⟩
  have hwaste : kept.IsWasteful other 2 := by
    rw [IsWasteful, hfresh]
    exact ⟨by decide, _, List.mem_singleton_self _, rfl⟩
  exact ⟨hruns', hapart, hgoes, fun hneeded =>
    (needed_iff htrails (horder.holds rfl) hgoes).mp hneeded hwaste⟩

end PaperSearch.Cache
