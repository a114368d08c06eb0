import PaperSearch.Paper.Page
import PaperSearch.Text.Md5
import PaperSearch.Time.Duration

/-!
# A cache of pages

Pages are kept under a digest of their request for a fixed time. They stand in the order in which
they were stored, so the first is the first to expire.

* `Params.cacheKey` is the digest of a request.
* `Cache.lookup` gives a page that is still fresh, and forgets one that is not.
* `Cache.makeRoom` makes room when the cache is full: stale pages go first, then the oldest.
* `Cache.store` makes room and keeps a page, and `Cache.keep` does so if the time at which the page
  expires is one that clocks show.
-/

namespace PaperSearch

open Time

/-- The key under which the page of a search is kept. -/
def Params.cacheKey (params : Params) : String :=
  String.ofList (Text.Md5.hex params.encode.toList)

structure CachedPage where
  key : String
  page : Page
  /-- The page is fresh before this time, in nanoseconds. -/
  expires : Nat
  deriving Repr

def CachedPage.isFresh (c : CachedPage) (now : Nat) : Bool :=
  now < c.expires

structure Cache where
  lifetime : Duration
  capacity : Nat
  pages : List CachedPage
  capacity_pos : 0 < capacity
  deriving Repr

namespace Cache

def defaultCapacity : Nat := 256

/-- An empty cache; it holds one page at least. -/
def empty (lifetime : Duration) (capacity : Nat) : Cache :=
  ⟨lifetime, max capacity 1, [], by omega⟩

def size (c : Cache) : Nat :=
  c.pages.length

def clear (c : Cache) : Cache :=
  { c with pages := [] }

/-- What is kept under a key. -/
def find? (c : Cache) (key : String) : Option CachedPage :=
  c.pages.find? fun p => p.key == key

/-- The cache without what it keeps under a key. -/
def erase (c : Cache) (key : String) : Cache :=
  { c with pages := c.pages.filter fun p => p.key != key }

/-- The fresh page under a key; a stale one is forgotten. -/
def lookup (c : Cache) (key : String) (now : Nat) : Option Page × Cache :=
  match c.find? key with
  | none => (none, c)
  | some p => if p.isFresh now then (some p.page, c) else (none, c.erase key)

/-- A full cache without its stale pages. -/
def dropStale (c : Cache) (now : Nat) : Cache :=
  if c.capacity ≤ c.size then { c with pages := c.pages.filter fun p => p.isFresh now } else c

/-- A full cache without its oldest page. -/
def dropOldest (c : Cache) : Cache :=
  if c.capacity ≤ c.size then { c with pages := c.pages.tail } else c

def makeRoom (c : Cache) (now : Nat) : Cache :=
  (c.dropStale now).dropOldest

/-- Can a page be kept from now on? -/
def canStore (c : Cache) (now : Nat) : Bool :=
  now + c.lifetime.nanoseconds < clockEnd

/-- Keeps a page under a key from now on. -/
def store (c : Cache) (key : String) (page : Page) (now : Nat) : Cache :=
  let room := (c.makeRoom now).erase key
  { room with pages := room.pages ++ [⟨key, page, now + c.lifetime.nanoseconds⟩] }

/-- Keeps a page if it can be kept. Otherwise there is only room made for it. -/
def keep (c : Cache) (key : String) (page : Page) (now : Nat) : Bool × Cache :=
  if c.canStore now then (true, c.store key page now) else (false, c.makeRoom now)

end Cache
end PaperSearch
