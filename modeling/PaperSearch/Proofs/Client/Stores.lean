import PaperSearch.Client.Cache

/-!
# What a cache holds

Pages are looked up in a cache and stored in it, and it is cleared (`Cache.Deed`). Room is made for
a page also when it cannot be kept. A cache that was empty at first holds pages that were each the
last to be stored under their key, within its capacity, and in the order in which they expire
(`Cache.Holds`).

* `Holds.lookup`, `Holds.store`, `Holds.makeRoom` and `Holds.clear` are the steps of that invariant;
  it needs time not to go back only for the order.
* `Holds.found` says what a page that is found has to do with the deeds before.
-/

namespace PaperSearch.Cache

/-! ## Deeds -/

/-- Something that is done to a cache. -/
inductive Deed where
  | lookup (key : String) (time : Nat)
  | store (key : String) (page : Page) (time : Nat)
  /-- Room is made for a page that cannot be kept. -/
  | makeRoom (time : Nat)
  | clear

/-- The cache after a deed. -/
def after (c : Cache) : Deed → Cache
  | .lookup key time => (c.lookup key time).2
  | .store key page time => c.store key page time
  | .makeRoom time => c.makeRoom time
  | .clear => c.clear

/-- The last page to be stored under a key since the cache was cleared, and the time of that. -/
def LastStored (deeds : List Deed) (key : String) (page : Page) (time : Nat) : Prop :=
  ∃ before later, deeds = before ++ .store key page time :: later ∧
    ∀ deed ∈ later, deed ≠ .clear ∧ ∀ page time, deed ≠ .store key page time

theorem lastStored_concat_store (deeds : List Deed) (key : String) (page : Page) (time : Nat) :
    LastStored (deeds ++ [.store key page time]) key page time :=
  ⟨deeds, [], rfl, fun _ h => absurd h List.not_mem_nil⟩

namespace LastStored

variable {deeds : List Deed} {key : String} {page : Page} {time : Nat}

/-- Deeds that neither clear the cache nor store anything under the key change nothing. -/
theorem concat (h : LastStored deeds key page time) {deed : Deed} (hclear : deed ≠ .clear)
    (hstore : ∀ page time, deed ≠ .store key page time) :
    LastStored (deeds ++ [deed]) key page time := by
  obtain ⟨before, later, rfl, hlater⟩ := h
  refine ⟨before, later ++ [deed], by simp, fun d hd => ?_⟩
  rcases List.mem_append.mp hd with hd | hd
  · exact hlater d hd
  · rw [List.mem_singleton.mp hd]
    exact ⟨hclear, hstore⟩

theorem mem (h : LastStored deeds key page time) : .store key page time ∈ deeds := by
  obtain ⟨before, later, rfl, -⟩ := h
  exact List.mem_append_right _ List.mem_cons_self

end LastStored

/-! ## Pages that go and pages that come -/

variable {c : Cache} {key : String} {now : Nat}

/-- The pages that are left when room has been made for one under a key. -/
def room (c : Cache) (key : String) (now : Nat) : List CachedPage :=
  ((c.makeRoom now).erase key).pages

theorem exists_makeRoom_eq (c : Cache) (now : Nat) :
    ∃ pages, c.makeRoom now = { c with pages } := by
  unfold makeRoom dropOldest
  split <;> unfold dropStale <;> split <;> exact ⟨_, rfl⟩

theorem store_eq (c : Cache) (key : String) (page : Page) (now : Nat) :
    c.store key page now =
      { c with pages := c.room key now ++ [⟨key, page, now + c.lifetime.nanoseconds⟩] } := by
  obtain ⟨pages, hpages⟩ := c.exists_makeRoom_eq now
  unfold store room
  rw [hpages]
  rfl

/-- Whether a page can be kept depends on how long it is to be kept. -/
theorem canStore_makeRoom (c : Cache) (time now : Nat) :
    (c.makeRoom time).canStore now = c.canStore now := by
  obtain ⟨pages, hpages⟩ := c.exists_makeRoom_eq time
  rw [hpages]
  rfl

theorem canStore_store (c : Cache) (key : String) (page : Page) (time now : Nat) :
    (c.store key page time).canStore now = c.canStore now := by
  rw [store_eq]
  rfl

theorem keep_of_canStore (h : c.canStore now = true) (key : String) (page : Page) :
    c.keep key page now = (true, c.store key page now) :=
  if_pos h

theorem keep_of_not_canStore (h : c.canStore now = false) (key : String) (page : Page) :
    c.keep key page now = (false, c.makeRoom now) :=
  if_neg (Bool.eq_false_iff.mp h)

theorem lookup_eq (c : Cache) (key : String) (now : Nat) :
    ∃ pages, (c.lookup key now).2 = { c with pages } ∧ pages.Sublist c.pages := by
  unfold lookup
  split
  · exact ⟨_, rfl, .refl _⟩
  · split
    · exact ⟨_, rfl, .refl _⟩
    · exact ⟨_, rfl, List.filter_sublist⟩

theorem dropStale_pages_sublist (c : Cache) (now : Nat) :
    (c.dropStale now).pages.Sublist c.pages := by
  unfold dropStale
  split
  · exact List.filter_sublist
  · exact .refl _

theorem dropOldest_pages_sublist (c : Cache) : c.dropOldest.pages.Sublist c.pages := by
  unfold dropOldest
  split
  · exact List.tail_sublist _
  · exact .refl _

theorem makeRoom_pages_sublist (c : Cache) (now : Nat) :
    (c.makeRoom now).pages.Sublist c.pages :=
  (dropOldest_pages_sublist _).trans (c.dropStale_pages_sublist now)

theorem room_sublist (c : Cache) (key : String) (now : Nat) : (c.room key now).Sublist c.pages :=
  List.filter_sublist.trans (c.makeRoom_pages_sublist now)

theorem key_ne_of_mem_room {p : CachedPage} (h : p ∈ c.room key now) : p.key ≠ key := by
  simpa using (List.mem_filter.mp h).2

theorem length_dropOldest_lt (h : c.size ≤ c.capacity) :
    c.dropOldest.pages.length < c.capacity := by
  have hpos := c.capacity_pos
  have hsize : c.pages.length ≤ c.capacity := h
  unfold dropOldest
  split
  · show c.pages.tail.length < c.capacity
    rw [List.length_tail]
    omega
  · rename_i hless
    exact Nat.lt_of_not_le hless

/-- There is a place for one more page when room has been made. -/
theorem length_room_lt (h : c.size ≤ c.capacity) (key : String) (now : Nat) :
    (c.room key now).length < c.capacity := by
  have hcapacity : (c.dropStale now).capacity = c.capacity := by
    unfold dropStale
    split <;> rfl
  have hsize : (c.dropStale now).size ≤ (c.dropStale now).capacity := by
    rw [hcapacity]
    exact Nat.le_trans (c.dropStale_pages_sublist now).length_le h
  rw [← hcapacity]
  exact Nat.lt_of_le_of_lt List.filter_sublist.length_le (length_dropOldest_lt hsize)

/-- Deeds change neither how long pages are kept nor how many. -/
theorem exists_after_eq (c : Cache) (deed : Deed) : ∃ pages, c.after deed = { c with pages } := by
  cases deed with
  | lookup key time =>
    obtain ⟨pages, hpages, -⟩ := c.lookup_eq key time
    exact ⟨pages, hpages⟩
  | store key page time => exact ⟨_, c.store_eq key page time⟩
  | makeRoom time => exact c.exists_makeRoom_eq time
  | clear => exact ⟨[], rfl⟩

/-- The cache after some deeds. -/
def replay (c : Cache) (deeds : List Deed) : Cache :=
  deeds.foldl after c

theorem replay_append (c : Cache) (deeds more : List Deed) :
    c.replay (deeds ++ more) = (c.replay deeds).replay more :=
  List.foldl_append

theorem exists_replay_eq (c : Cache) (deeds : List Deed) :
    ∃ pages, c.replay deeds = { c with pages } := by
  induction deeds generalizing c with
  | nil => exact ⟨c.pages, rfl⟩
  | cons deed deeds ih =>
    obtain ⟨pages, hpages⟩ := c.exists_after_eq deed
    obtain ⟨pages', hpages'⟩ := ih (c.after deed)
    refine ⟨pages', ?_⟩
    show (c.after deed).replay deeds = _
    rw [hpages', hpages]

/-! ## The invariant -/

/-- What a cache holds after some deeds, `now` being no earlier than any of them. -/
structure Holds (c : Cache) (deeds : List Deed) (now : Nat) : Prop where
  size_le : c.size ≤ c.capacity
  last : ∀ p ∈ c.pages, ∃ time, LastStored deeds p.key p.page time ∧
    p.expires = time + c.lifetime.nanoseconds
  /-- The first page is the first to expire. -/
  ordered : c.pages.Pairwise fun p q => p.expires ≤ q.expires
  expires_le : ∀ p ∈ c.pages, p.expires ≤ now + c.lifetime.nanoseconds

theorem holds_of_pages_eq_nil (h : c.pages = []) (now : Nat) : c.Holds [] now := by
  have hnone : ∀ p, p ∉ c.pages := by
    rw [h]
    exact fun p => List.not_mem_nil
  refine ⟨?_, fun p hp => absurd hp (hnone p), ?_, fun p hp => absurd hp (hnone p)⟩
  · rw [size, h]
    exact Nat.zero_le _
  · rw [h]
    exact .nil

namespace Holds

variable {deeds : List Deed} {pages : List CachedPage}

theorem later {now' : Nat} (h : c.Holds deeds now) (hle : now ≤ now') : c.Holds deeds now' :=
  ⟨h.size_le, h.last, h.ordered, fun p hp =>
    Nat.le_trans (h.expires_le p hp) (Nat.add_le_add_right hle _)⟩

/-- Some pages may go. -/
theorem sublist (h : c.Holds deeds now) (hpages : pages.Sublist c.pages) :
    { c with pages }.Holds deeds now :=
  ⟨Nat.le_trans hpages.length_le h.size_le, fun p hp => h.last p (hpages.subset hp),
    h.ordered.sublist hpages, fun p hp => h.expires_le p (hpages.subset hp)⟩

/-- What was stored last under the keys of the pages may be so after more deeds. -/
theorem mono {deeds' : List Deed} (h : c.Holds deeds now)
    (hlast : ∀ p ∈ c.pages, ∀ page time, LastStored deeds p.key page time →
      LastStored deeds' p.key page time) : c.Holds deeds' now := by
  refine ⟨h.size_le, fun p hp => ?_, h.ordered, h.expires_le⟩
  obtain ⟨time, hstored, hexpires⟩ := h.last p hp
  exact ⟨time, hlast p hp _ _ hstored, hexpires⟩

theorem lookup (h : c.Holds deeds now) (key : String) (time : Nat) :
    (c.after (.lookup key time)).Holds (deeds ++ [.lookup key time]) now := by
  obtain ⟨pages, hpages, hsublist⟩ := c.lookup_eq key time
  show (c.lookup key time).2.Holds _ now
  rw [hpages]
  exact (h.sublist hsublist).mono fun p _ page t hstored => hstored.concat nofun nofun

theorem makeRoom (h : c.Holds deeds now) (time : Nat) :
    (c.after (.makeRoom time)).Holds (deeds ++ [.makeRoom time]) now := by
  obtain ⟨pages, hpages⟩ := c.exists_makeRoom_eq time
  have hsublist := c.makeRoom_pages_sublist time
  show (c.makeRoom time).Holds _ now
  rw [hpages] at hsublist ⊢
  exact (h.sublist hsublist).mono fun p _ page t hstored => hstored.concat nofun nofun

theorem clear (c : Cache) (deeds : List Deed) (now : Nat) :
    (c.after .clear).Holds (deeds ++ [.clear]) now :=
  ⟨Nat.zero_le _, fun _ hp => absurd hp List.not_mem_nil, .nil,
    fun _ hp => absurd hp List.not_mem_nil⟩

theorem store (h : c.Holds deeds now) (key : String) (page : Page) :
    (c.after (.store key page now)).Holds (deeds ++ [.store key page now]) now := by
  show (c.store key page now).Holds _ now
  rw [store_eq]
  -- the pages that stay are under other keys, so that they were still the last to be stored
  have hstay : Holds { c with pages := c.room key now } (deeds ++ [.store key page now]) now := by
    refine (h.sublist (c.room_sublist key now)).mono fun p hp _ _ hstored => ?_
    refine hstored.concat nofun fun page' time heq => ?_
    exact key_ne_of_mem_room hp (Deed.store.inj heq).1.symm
  refine ⟨?_, fun p hp => ?_, ?_, fun p hp => ?_⟩
  · have hroom := length_room_lt h.size_le key now
    show (c.room key now ++ [_]).length ≤ c.capacity
    rw [List.length_append]
    exact hroom
  · rcases List.mem_append.mp hp with hp | hp
    · exact hstay.last p hp
    · rw [List.mem_singleton.mp hp]
      exact ⟨now, lastStored_concat_store deeds key page now, rfl⟩
  · refine List.pairwise_append.mpr ⟨hstay.ordered, List.pairwise_singleton _ _, ?_⟩
    intro p hp q hq
    rw [List.mem_singleton.mp hq]
    exact hstay.expires_le p hp
  · rcases List.mem_append.mp hp with hp | hp
    · exact hstay.expires_le p hp
    · obtain rfl := List.mem_singleton.mp hp
      exact Nat.le_refl _

end Holds

/-! ## Pages that are found -/

theorem exists_of_lookup {page : Page} (h : (c.lookup key now).1 = some page) :
    ∃ p ∈ c.pages, p.key = key ∧ p.page = page ∧ now < p.expires := by
  unfold lookup find? at h
  split at h
  · cases h
  · rename_i p hfind
    have hkey := List.find?_some hfind
    split at h
    · rename_i hfresh
      exact ⟨p, List.mem_of_find?_eq_some hfind, eq_of_beq hkey, Option.some.inj h,
        of_decide_eq_true hfresh⟩
    · cases h

/-- A page that was just stored is found as long as it is fresh. -/
theorem lookup_store (c : Cache) (key : String) (page : Page) {time : Nat}
    (h : time < now + c.lifetime.nanoseconds) :
    ((c.store key page now).lookup key time).1 = some page := by
  have hfresh : (CachedPage.mk key page (now + c.lifetime.nanoseconds)).isFresh time = true :=
    decide_eq_true h
  have hnone : (c.room key now).find? (fun p => p.key == key) = none := by
    refine List.find?_eq_none.mpr fun p hp => ?_
    rw [beq_iff_eq]
    exact key_ne_of_mem_room hp
  have hfind : (c.store key page now).find? key =
      some ⟨key, page, now + c.lifetime.nanoseconds⟩ := by
    rw [find?, store_eq, List.find?_append, hnone]
    simp
  rw [lookup, hfind]
  dsimp only
  rw [if_pos hfresh]

/-- A page that is found was the last to be stored under its key, and is still fresh. -/
theorem Holds.found {deeds : List Deed} (h : c.Holds deeds now) {page : Page} {time : Nat}
    (hfound : (c.lookup key time).1 = some page) :
    ∃ stored, LastStored deeds key page stored ∧ time < stored + c.lifetime.nanoseconds := by
  obtain ⟨p, hp, rfl, rfl, hfresh⟩ := exists_of_lookup hfound
  obtain ⟨stored, hlast, hexpires⟩ := h.last p hp
  rw [hexpires] at hfresh
  exact ⟨stored, hlast, hfresh⟩

end PaperSearch.Cache
