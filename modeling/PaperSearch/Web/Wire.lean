import PaperSearch.Text.Cut
import PaperSearch.Web.Exchange

/-!
# Requests and replies on the wire

A message is a line that says what it is, a line for each header, an empty line and a body. A
connection carries one request and its reply.

* `Request.bytes` writes a request.
* `Reply.parse?` reads a reply from all the bytes that have come.
-/

namespace PaperSearch.Web

/-! ## Writing -/

/-- The host of a request, with the number after it. -/
def Request.host (r : Request) : String :=
  match r.address.portNumber with
  | none => r.address.host
  | some portNumber => r.address.host ++ ":" ++ toString portNumber

def Request.headers (r : Request) : List (String × String) :=
  [("host", r.host), ("accept", acceptedType), ("user-agent", r.userAgent),
   ("connection", "close")] ++
    match r.contentType with
    | none => []
    | some kind => [("content-type", kind), ("content-length", toString r.body.utf8ByteSize)]

/-- The text of a request. -/
def Request.render (r : Request) : String :=
  r.method.verb ++ " " ++ String.ofList r.address.target ++ " HTTP/1.1\r\n" ++
    String.join (r.headers.map fun (name, value) => name ++ ": " ++ value ++ "\r\n") ++
    "\r\n" ++ r.body

def Request.bytes (r : Request) : List UInt8 :=
  Text.utf8 r.render.toList

/-! ## Lines -/

/-- The bytes before the first line feed, without the carriage return at their end, and the bytes
after it. -/
def cutLine? : List UInt8 → Option (List UInt8 × List UInt8)
  | [] => none
  | b :: rest =>
    if b = 10 then some ([], rest)
    else
      (cutLine? rest).map fun (line, after) =>
        (if b = 13 ∧ line.isEmpty then [] else b :: line, after)

/-- Header lines up to an empty one, and the bytes after it. -/
def headLines? (bytes : List UInt8) : Option (List (List UInt8) × List UInt8) :=
  match cutLine? bytes with
  | none => none
  | some (line, rest) =>
    if line.isEmpty then some ([], rest)
    else if rest.length < bytes.length then
      (headLines? rest).map fun (lines, after) => (line :: lines, after)
    else none
termination_by bytes.length

/-- The name of a header, in lower case, and its value. -/
def header? (line : List UInt8) : Option (String × String) :=
  (Text.cutAt? (fun c => c == ':') (Text.ofUtf8Lossy line)).map fun (name, value) =>
    (String.ofList (name.map Char.toLower), String.ofList (Text.trim value))

/-- The status in the first line of a reply. -/
def status? (line : List UInt8) : Option UInt16 :=
  match Text.words (Text.ofUtf8Lossy line) with
  | _ :: code :: _ => (Text.natural? code).map UInt16.ofNat
  | _ => none

/-! ## Bodies -/

/-- The size of a chunk, in hexadecimal digits at the beginning of its line. -/
def chunkSize? (line : List UInt8) : Option Nat :=
  let digits := (Text.ofUtf8Lossy line).takeWhile fun c => (Text.hexValue? c).isSome
  if digits.isEmpty then none
  else some (digits.foldl (fun n c => 16 * n + (Text.hexValue? c).getD 0) 0)

/-- Bytes without the line end that they begin with. -/
def afterLineEnd : List UInt8 → List UInt8
  | 13 :: 10 :: rest => rest
  | 10 :: rest => rest
  | rest => rest

/-- A body that comes in chunks, each under a line with its size, and whether the last one, which
is empty, has come. -/
def joinChunks (bytes : List UInt8) : List UInt8 × Bool :=
  match cutLine? bytes with
  | none => ([], false)
  | some (line, rest) =>
    match chunkSize? line with
    | none => ([], false)
    | some 0 => ([], true)
    | some size =>
      if _h : (afterLineEnd (rest.drop size)).length < bytes.length ∧ size ≤ rest.length then
        let (others, complete) := joinChunks (afterLineEnd (rest.drop size))
        (rest.take size ++ others, complete)
      else (rest, false)
termination_by bytes.length

/-- The body of a reply with these headers, and whether all of it has come. -/
def body (headers : List (String × String)) (bytes : List UInt8) : List UInt8 × Bool :=
  if headers.lookup "transfer-encoding" = some "chunked" then joinChunks bytes
  else
    match (headers.lookup "content-length").bind fun n => Text.natural? n.toList with
    | some n => (bytes.take n, n ≤ bytes.length)
    | none => (bytes, true)

/-! ## Reading -/

/-- The reply in the bytes that have come. Replies that only announce another one are passed
over. -/
def Reply.parse? (bytes : List UInt8) : Option Reply :=
  match headLines? bytes with
  | some (first :: lines, rest) =>
    match status? first with
    | none => none
    | some status =>
      if 100 ≤ status ∧ status < 200 ∧ status ≠ 101 then
        if rest.length < bytes.length then Reply.parse? rest else none
      else
        let headers := lines.filterMap header?
        let (body, isComplete) := Web.body headers rest
        some
          { status
            contentType := headers.lookup "content-type"
            location := headers.lookup "location"
            body
            isComplete }
  | _ => none
termination_by bytes.length

/-- What has come of a request when these are all the bytes that came back. -/
def Reaction.ofBytes (bytes : List UInt8) : Reaction :=
  match Reply.parse? bytes with
  | some r => .reply r
  | none => .closed

end PaperSearch.Web
