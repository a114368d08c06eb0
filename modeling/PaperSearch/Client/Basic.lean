import PaperSearch.Client.Interceptor

/-!
# Clients

A client searches with an engine, through its interceptors.

* `Client.search` gives a page.
* `Client.searchNext`, `Client.searchPrevious` give the pages beside one.
-/

namespace PaperSearch

structure Client (σ : Type) where
  engine : Engine σ
  /-- The first is the outermost. -/
  interceptors : List (Interceptor σ)

namespace Client

variable {σ : Type}

/-- Searches, with a token to stop the search by. -/
def searchWith (c : Client σ) (token : Cancellation) (params : Params) :
    Search σ (Result Page) := do
  modify fun s => { s with token }
  match params.check with
  | .error cause => return .error (.invalid cause)
  | .ok () => (Next.through c.engine c.interceptors).run params

def search (c : Client σ) (params : Params) : Search σ (Result Page) :=
  c.searchWith .fresh params

/-- The response of a search, past the interceptors. -/
def rawSearch (c : Client σ) (token : Cancellation) (params : Params) :
    Search σ (Result Response) := do
  modify fun s => { s with token }
  c.engine.rawSearch params

/-- The page after a page. -/
def searchNext (c : Client σ) (page : Page) : Search σ (Result Page) :=
  if page.hasMore then c.search { page.params with start := page.nextStart }
  else return .error (.exhausted .next)

/-- The page before a page. -/
def searchPrevious (c : Client σ) (page : Page) : Search σ (Result Page) :=
  if page.hasPrevious then c.search { page.params with start := page.previousStart }
  else return .error (.exhausted .previous)

end Client
end PaperSearch
