import PaperSearch.Text.Blank
import PaperSearch.Text.Percent

/-!
# Web addresses

An address names a host and, on it, a path and a query. It is read leniently: blanks around it and
line breaks in it are dropped, backslashes are slashes, steps up and down the path are taken, and
characters that an address cannot hold are percent-encoded. What follows `#` is left out.

* `Address.parse?` reads an address.
* `Address.target` is the path and the query, as a request names them.
-/

namespace PaperSearch

structure Address where
  /-- Is the connection encrypted? -/
  secure : Bool
  host : String
  /-- The number after the host, if it is not the usual one. -/
  portNumber : Option Nat
  /-- The path without its first slash. -/
  path : List (List Char)
  query : Option (List Char)
  deriving DecidableEq, Repr

namespace Address

/-! ## Characters -/

def isControl (b : UInt8) : Bool :=
  b < 32 || 126 < b

/-- Bytes that are escaped in a path. -/
def isPathUnsafe (b : UInt8) : Bool :=
  isControl b || " \"#<>?`\x7b\x7d".toList.any fun c => c.toNat == b.toNat

/-- Bytes that are escaped in a query. -/
def isQueryUnsafe (b : UInt8) : Bool :=
  isControl b || " \"#<>'".toList.any fun c => c.toNat == b.toNat

/-- A text with some of its bytes escaped. -/
def encode (isUnsafe : UInt8 → Bool) (s : List Char) : List Char :=
  (Text.utf8 s).flatMap fun b =>
    if isUnsafe b then Text.Percent.escapeByte b else [Char.ofNat b.toNat]

def isSlash (c : Char) : Bool :=
  c == '/' || c == '\\'

/-- A text without blanks around it and without tabs and line breaks. -/
def cleaned (s : List Char) : List Char :=
  let isBlank : Char → Bool := fun c => c.toNat ≤ 32
  let inner := ((s.dropWhile isBlank).reverse.dropWhile isBlank).reverse
  inner.filter fun c => c != '\t' && c != '\n' && c != '\r'

/-! ## Paths -/

/-- Does a segment stay where it is? -/
def isStay (segment : List Char) : Bool :=
  segment.map Char.toLower ∈ [".", "%2e"].map String.toList

/-- Does a segment go up? -/
def isUp (segment : List Char) : Bool :=
  segment.map Char.toLower ∈ ["..", ".%2e", "%2e.", "%2e%2e"].map String.toList

/-- A text at its slashes. -/
def splitSlashes : List Char → List (List Char)
  | [] => [[]]
  | c :: rest =>
    match splitSlashes rest with
    | first :: others => if isSlash c then [] :: first :: others else (c :: first) :: others
    | [] => [[]]

/-- Does a segment name a drive, as `C:` does? -/
def isDrive : List Char → Bool
  | [letter, mark] => letter.isAlpha && (mark == ':' || mark == '|')
  | _ => false

/-- A path one step up, its last segment first. A drive is not left. -/
def up : List (List Char) → List (List Char)
  | [] => []
  | last :: rest => if isDrive last then last :: rest else rest

/-- Takes the steps of a path, from a path given last segment first. A step up or none at the end
leaves an empty segment. -/
def walk (done : List (List Char)) : List (List Char) → List (List Char)
  | [] => done.reverse
  | [last] =>
    if isUp last then (([] : List Char) :: up done).reverse
    else if isStay last then ([] :: done).reverse
    else (encode isPathUnsafe last :: done).reverse
  | segment :: rest =>
    if isUp segment then walk (up done) rest
    else if isStay segment then walk done rest
    else walk (encode isPathUnsafe segment :: done) rest

/-- The parts of a text before the query, of the query if any, and nothing of what follows `#`. -/
def splitQuery (s : List Char) : List Char × Option (List Char) :=
  let s := s.takeWhile fun c => c != '#'
  let path := s.takeWhile fun c => c != '?'
  match s.dropWhile fun c => c != '?' with
  | [] => (path, none)
  | _ :: query => (path, some (encode isQueryUnsafe query))

/-! ## Hosts -/

/-- The host of a text such as `host:80`, and the number of 16 bits after its colon. -/
def hostAndPort? (secure : Bool) (s : List Char) : Option (String × Option Nat) :=
  let bracketed := s.head? == some '['
  let host :=
    if bracketed then s.takeWhile (fun c => c != ']') ++ [']']
    else s.takeWhile fun c => c != ':'
  let rest := s.drop host.length
  let isForbidden : Char → Bool := fun c =>
    c.toNat ≤ 32 || c.toNat == 127 || "#/<>?@\\^|%".toList.contains c ||
      (!bracketed && (c == '[' || c == ']'))
  if host.isEmpty || host.any isForbidden || host.length > s.length then none
  else
    let name := String.ofList (host.map Char.toLower)
    match rest with
    | [] => some (name, none)
    | ':' :: digits =>
      if digits.isEmpty then some (name, none)
      else
        match Text.natural? digits with
        | some n =>
          if 65535 < n then none
          else some (name, if n = (if secure then 443 else 80) then none else some n)
        | none => none
    | _ => none

/-- What follows the last `@` of a text, or all of it. -/
def afterUser (s : List Char) : List Char :=
  (s.reverse.takeWhile fun c => c != '@').reverse

/-- An address from its host on. -/
def ofHost? (secure : Bool) (s : List Char) : Option Address := do
  let endsHost : Char → Bool := fun c => isSlash c || c == '?' || c == '#'
  let authority := s.takeWhile fun c => !endsHost c
  let (host, portNumber) ← hostAndPort? secure (afterUser authority)
  let (path, query) := splitQuery (s.dropWhile fun c => !endsHost c)
  return ⟨secure, host, portNumber, walk [] (splitSlashes (path.drop 1)), query⟩

/-! ## Reading -/

/-- The name before the first colon, in lower case, if it can name a kind of address. -/
def scheme? (s : List Char) : Option (String × List Char) :=
  let name := s.takeWhile fun c => c.isAlphanum || c == '+' || c == '-' || c == '.'
  match name, s.drop name.length with
  | first :: _, ':' :: rest =>
    if first.isAlpha then some (String.ofList (name.map Char.toLower), rest) else none
  | _, _ => none

/-- Whether an address of this kind is encrypted; none when it is no address on the web. -/
def isSecure? (scheme : String) : Option Bool :=
  match scheme with
  | "http" => some false
  | "https" => some true
  | _ => none

/-- A whole address. -/
def parse? (s : List Char) : Option Address := do
  let (scheme, rest) ← scheme? (cleaned s)
  let secure ← isSecure? scheme
  ofHost? secure (rest.dropWhile isSlash)

/-- The path and the query. -/
def target (a : Address) : List Char :=
  '/' :: Text.join ['/'] a.path ++
    match a.query with
    | none => []
    | some query => '?' :: query

end Address
end PaperSearch
