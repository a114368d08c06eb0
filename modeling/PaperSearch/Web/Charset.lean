import PaperSearch.Text.Charset

/-!
# The text of a body

The type of a body can name the character set of its text. A mark at the beginning of a body goes
before that name. Without either, and where the name is not known, the text is in UTF-8.

* `charset?` is the name in the type of a body.
* `bodyText` is the text of a body.
-/

namespace PaperSearch.Web

/-! ## Types of bodies -/

/-- The value of a header without spaces and tabs around it. -/
def withoutBlanks (s : List Char) : List Char :=
  let isBlank : Char → Bool := fun c => c == ' ' || c == '\t'
  ((s.dropWhile isBlank).reverse.dropWhile isBlank).reverse

/-- May a character stand in a name? -/
def isTokenChar (c : Char) : Bool :=
  c.isAlphanum || "!#$%&'*+-.^_`|~".toList.contains c

/-- May a character stand in a line of ASCII text? -/
def isPrintable (c : Char) : Bool :=
  32 ≤ c.toNat && c.toNat < 127

/-- May a character stand between quotes? The first one may be a quote as well. -/
def isQuotedChar (c : Char) : Bool :=
  isPrintable c && c != '"'

/-- The value of a parameter and what follows it. -/
def parameterValue? (s : List Char) : Option (List Char × List Char) :=
  match s with
  | '"' :: first :: rest =>
    let value := first :: rest.takeWhile isQuotedChar
    if !isPrintable first then none
    else
      match rest.dropWhile isQuotedChar with
      | '"' :: rest =>
        match rest.dropWhile fun c => c == ' ' with
        | [] => some (value, [])
        | ';' :: rest => some (value, rest)
        | _ => none
      | _ => none
  | s =>
    let value := s.takeWhile isTokenChar
    match s.dropWhile isTokenChar with
    | [] => some (value, [])
    | ';' :: rest => if value.isEmpty then none else some (value, rest)
    | _ => none

/-- The parameters of a type, their names in lower case. -/
def parameters? (s : List Char) : Option (List (String × List Char)) :=
  match s.dropWhile fun c => c == ' ' with
  | [] => some []
  | s' =>
    let name := s'.takeWhile isTokenChar
    match s'.dropWhile isTokenChar with
    | '=' :: rest =>
      if name.isEmpty then none
      else
        match parameterValue? rest with
        | none => none
        | some (value, rest) =>
          if rest.length < s.length then
            (parameters? rest).map fun others =>
              (String.ofList (name.map Char.toLower), value) :: others
          else none
    | _ => none
termination_by s.length

/-- The name of the character set in the type of a body. -/
def charset? (contentType : String) : Option String := do
  let s := withoutBlanks contentType.toList
  if !s.all (fun c => isPrintable c || c == '\t') then none
  let kind := s.takeWhile isTokenChar
  match s.dropWhile isTokenChar with
  | '/' :: rest =>
    let subkind := rest.takeWhile isTokenChar
    if kind.isEmpty || subkind.isEmpty then none
    match rest.dropWhile isTokenChar with
    | ';' :: rest =>
      let parameters ← parameters? rest
      (parameters.lookup "charset").map fun name => String.ofList name
    | _ => none
  | _ => none

/-! ## Text -/

/-- The text of a body of some type. -/
def bodyText (contentType : Option String) (bytes : List UInt8) : String :=
  String.ofList <|
    match bytes with
    | 0xEF :: 0xBB :: 0xBF :: rest => Text.ofUtf8Lossy rest
    | 0xFE :: 0xFF :: rest => Text.ofUtf16Lossy true rest
    | 0xFF :: 0xFE :: rest => Text.ofUtf16Lossy false rest
    | bytes =>
      (((contentType.bind charset?).bind Text.Charset.ofLabel?).getD .utf8).decode bytes

end PaperSearch.Web
