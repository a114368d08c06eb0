/-!
# Cutting a text

A text is cut at a character, at a mark or at a balanced `>`; the cut itself belongs to neither
part. Positions count the bytes of UTF-8.

* `cutAt?`, `cutAtMark?`, `cutBalanced?` give the part before the cut and the part after it.
* The part after the cut is always shorter than the text.
-/

namespace PaperSearch.Text

/-- The number of bytes of a text in UTF-8. -/
def byteLength (s : List Char) : Nat :=
  s.foldl (fun n c => n + c.utf8Size) 0

/-- The parts of a text around the first character for which the test holds. -/
def cutAt? (stop : Char → Bool) : List Char → Option (List Char × List Char)
  | [] => none
  | c :: rest =>
    if stop c then some ([], rest)
    else (cutAt? stop rest).map fun parts => (c :: parts.1, parts.2)

/-- The parts of a text around the first place of a mark. -/
def cutAtMark? (mark : List Char) : List Char → Option (List Char × List Char)
  | [] => none
  | c :: rest =>
    if mark.isPrefixOf (c :: rest) then some ([], (c :: rest).drop (max 1 mark.length))
    else (cutAtMark? mark rest).map fun parts => (c :: parts.1, parts.2)

/-- The parts of a text around the first `>` that closes no `<` of the text, with some `<` open
before it. -/
def cutBalanced? (depth : Nat) : List Char → Option (List Char × List Char)
  | [] => none
  | c :: rest =>
    if c = '>' then
      match depth with
      | 0 => some ([], rest)
      | depth + 1 => (cutBalanced? depth rest).map fun parts => (c :: parts.1, parts.2)
    else
      (cutBalanced? (if c = '<' then depth + 1 else depth) rest).map fun parts =>
        (c :: parts.1, parts.2)

/-- The parts of a text around the first `>` outside quotes, with a quote open or not. -/
def cutUnquoted? (quote : Option Char) : List Char → Option (List Char × List Char)
  | [] => none
  | c :: rest =>
    match quote with
    | none =>
      if c = '>' then some ([], rest)
      else
        (cutUnquoted? (if c = '\'' ∨ c = '"' then some c else none) rest).map fun parts =>
          (c :: parts.1, parts.2)
    | some q =>
      (cutUnquoted? (if c = q then none else some q) rest).map fun parts =>
        (c :: parts.1, parts.2)

theorem cutAt?_length {stop : Char → Bool} {s : List Char} {parts : List Char × List Char}
    (h : cutAt? stop s = some parts) : parts.2.length < s.length := by
  induction s generalizing parts with
  | nil => simp [cutAt?] at h
  | cons c rest ih =>
    unfold cutAt? at h
    split at h
    · cases h; simp
    · obtain ⟨inner, found, rfl⟩ := Option.map_eq_some_iff.1 h
      have := ih found
      simp only [List.length_cons]; omega

theorem cutAtMark?_length {mark s : List Char} {parts : List Char × List Char}
    (h : cutAtMark? mark s = some parts) : parts.2.length < s.length := by
  induction s generalizing parts with
  | nil => simp [cutAtMark?] at h
  | cons c rest ih =>
    unfold cutAtMark? at h
    split at h
    · cases h; simp only [List.length_drop, List.length_cons]; omega
    · obtain ⟨inner, found, rfl⟩ := Option.map_eq_some_iff.1 h
      have := ih found
      simp only [List.length_cons]; omega

theorem cutBalanced?_length {depth : Nat} {s : List Char} {parts : List Char × List Char}
    (h : cutBalanced? depth s = some parts) : parts.2.length < s.length := by
  induction s generalizing depth parts with
  | nil => simp [cutBalanced?] at h
  | cons c rest ih =>
    unfold cutBalanced? at h
    split at h
    · split at h
      · cases h; simp
      · obtain ⟨inner, found, rfl⟩ := Option.map_eq_some_iff.1 h
        have := ih found
        simp only [List.length_cons]; omega
    · obtain ⟨inner, found, rfl⟩ := Option.map_eq_some_iff.1 h
      have := ih found
      simp only [List.length_cons]; omega

theorem cutUnquoted?_length {quote : Option Char} {s : List Char}
    {parts : List Char × List Char} (h : cutUnquoted? quote s = some parts) :
    parts.2.length < s.length := by
  induction s generalizing quote parts with
  | nil => simp [cutUnquoted?] at h
  | cons c rest ih =>
    unfold cutUnquoted? at h
    split at h
    · split at h
      · cases h; simp
      · obtain ⟨inner, found, rfl⟩ := Option.map_eq_some_iff.1 h
        have := ih found
        simp only [List.length_cons]; omega
    · obtain ⟨inner, found, rfl⟩ := Option.map_eq_some_iff.1 h
      have := ih found
      simp only [List.length_cons]; omega

theorem length_dropWhile_le (test : Char → Bool) (s : List Char) :
    (s.dropWhile test).length ≤ s.length :=
  (List.dropWhile_sublist test).length_le

end PaperSearch.Text
