import PaperSearch.Web.Address

/-!
# References

A reference names an address by what sets it apart from another one: all of it, all but its
scheme, the path and what follows, or the query alone. It is read strictly: a character that an
address cannot hold must be escaped.

* `Reference.parse?` reads a reference.
* `Address.resolve` says where a reference leads from an address.
-/

namespace PaperSearch

structure Reference where
  scheme : Option String
  /-- The host with what belongs to it, after two slashes. -/
  authority : Option (List Char)
  path : List Char
  query : Option (List Char)
  hasFragment : Bool
  deriving DecidableEq, Repr

/-- Where a reference leads. -/
inductive Destination where
  | address (address : Address)
  /-- To no page on the web. -/
  | elsewhere
  /-- Nowhere: the reference makes no address. -/
  | nowhere
  deriving DecidableEq, Repr

namespace Reference

/-! ## Characters -/

/-- May a character stand in the name of a host? -/
def isHostChar (c : Char) : Bool :=
  c.isAlphanum || "-._~!$&'()*+,;=".toList.contains c

def isUserChar (c : Char) : Bool :=
  isHostChar c || c == ':'

def isSegmentChar (c : Char) : Bool :=
  isUserChar c || c == '@'

def isPathChar (c : Char) : Bool :=
  isSegmentChar c || c == '/'

def isQueryChar (c : Char) : Bool :=
  isPathChar c || c == '?'

/-- Are these the characters of a text, but for its escapes? -/
def isMadeOf (isAllowed : Char → Bool) : List Char → Bool
  | [] => true
  | '%' :: high :: low :: rest =>
    (Text.hexValue? high).isSome && (Text.hexValue? low).isSome && isMadeOf isAllowed rest
  | c :: rest => isAllowed c && isMadeOf isAllowed rest

/-! ## Reading -/

/-- A text up to a character, and what follows that, if it is there. -/
def splitAt (mark : Char) (s : List Char) : List Char × Option (List Char) :=
  match s.dropWhile fun c => c != mark with
  | [] => (s, none)
  | _ :: rest => (s.takeWhile fun c => c != mark, some rest)

/-- A host with a user before it and a number after it, if any. -/
def isAuthority (s : List Char) : Bool :=
  let host := Address.afterUser s
  let user := s.take (s.length - host.length - 1)
  let isBracketed := host.head? == some '['
  let name := host.takeWhile fun c => if isBracketed then c != ']' else c != ':'
  let rest := host.drop name.length
  let number :=
    if isBracketed then rest.drop 1 else rest
  isMadeOf isUserChar user &&
    (if isBracketed then
      rest.head? == some ']' && name.tail.all fun c =>
        (Text.hexValue? c).isSome || c == ':' || c == '.'
    else isMadeOf isHostChar name) &&
    (number.isEmpty || number.head? == some ':' && number.tail.all Text.isDigit)

/-- The host after two slashes, if there is one, and the path after it. -/
def splitAuthority : List Char → Option (List Char) × List Char
  | '/' :: '/' :: rest =>
    (some (rest.takeWhile fun c => c != '/'), rest.dropWhile fun c => c != '/')
  | rest => (none, rest)

def parse? (s : List Char) : Option Reference :=
  let (s, fragment) := splitAt '#' s
  let (s, query) := splitAt '?' s
  let (scheme, rest) : Option String × List Char :=
    match Address.scheme? s with
    | some (name, rest) => (some name, rest)
    | none => (none, s)
  let (authority, path) := splitAuthority rest
  let startsPlainly :=
    scheme.isSome || authority.isSome || !(path.takeWhile fun c => c != '/').contains ':'
  if startsPlainly && authority.all isAuthority && isMadeOf isPathChar path &&
      query.all (isMadeOf isQueryChar) && fragment.all (isMadeOf isQueryChar) then
    some ⟨scheme, authority, path, query, fragment.isSome⟩
  else none

/-! ## Resolving -/

/-- Takes the steps of a path, from a path given last segment first. A step up or none at the end
leaves an empty segment. -/
def settle (done : List (List Char)) : List (List Char) → List (List Char)
  | [] => done.reverse
  | segment :: rest =>
    let done :=
      if segment = ['.', '.'] then done.tail else if segment = ['.'] then done else segment :: done
    if rest.isEmpty ∧ (segment = ['.'] ∨ segment = ['.', '.']) then
      (([] : List Char) :: done).reverse
    else settle done rest

/-- The segments of a path that begins with a slash or is empty. -/
def segments (path : List Char) : List (List Char) :=
  settle [] (Address.splitSlashes (path.drop 1))

/-- Where a reference with a host leads. -/
def hosted (secure? : Option Bool) (authority path : List Char) (query : Option (List Char)) :
    Destination :=
  let host := Address.afterUser authority
  if host.isEmpty || host.contains '%' then .nowhere
  else
    match secure? with
    | none => .elsewhere
    | some secure =>
      match Address.hostAndPort? secure host with
      | none => .elsewhere
      | some (name, portNumber) => .address ⟨secure, name, portNumber, segments path, query⟩

/-- Where a reference with a scheme and without a host leads. -/
def unhosted (r : Reference) : Destination :=
  let last := Address.afterUser r.path
  let colons := last.count ':' + if last.length = r.path.length then 1 else 0
  if r.query.isSome || r.hasFragment || r.path.contains '/' || last.contains '%' || 1 < colons ||
      r.path.getLast? == some '@' then .nowhere
  else .elsewhere

end Reference

/-- Has an address nothing but characters that a reference may have as well? -/
def Address.isStrict (a : Address) : Bool :=
  a.path.all (Reference.isMadeOf Reference.isSegmentChar) &&
    a.query.all (Reference.isMadeOf Reference.isQueryChar)

/-- Where a reference leads from an address. -/
def Address.resolve (base : Address) (r : Reference) : Destination :=
  if !base.isStrict then .nowhere
  else
    match r.scheme, r.authority with
    | none, none =>
      match r.path with
      | [] => .address { base with query := r.query.or base.query }
      | '/' :: _ => .address { base with path := Reference.segments r.path, query := r.query }
      | path =>
        let path := Reference.settle base.path.reverse.tail (Address.splitSlashes path)
        .address { base with path, query := r.query }
    | none, some authority => Reference.hosted (some base.secure) authority r.path r.query
    | some scheme, some authority =>
      Reference.hosted (Address.isSecure? scheme) authority r.path r.query
    | some _, none => r.unhosted

end PaperSearch
