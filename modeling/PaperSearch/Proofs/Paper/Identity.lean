import PaperSearch.Paper.Entry
import PaperSearch.Proofs.Text.Bytes
import PaperSearch.Proofs.Text.Cut

/-!
# The identity of a paper

A paper has one identifier, whatever its version and whatever stands in front of `/abs/` in its
address. A version is stripped off once, and nothing else is (`stripVersion_of_isVersion`,
`stripVersion_of_not_isVersion`).

An identifier can also be cut out of the bytes of the address, at positions that are found there
(`identifierBytes?`). These positions are always between two characters, and the bytes that are cut
out are those of the identifier (`identifierBytes?_utf8`).

`Entry.identifies` puts this together.
-/

namespace PaperSearch

open Text

/-! ## Versions -/

/-- A paper's identifier and a version behind it: a `v` that follows no slash, and digits. -/
inductive IsVersion (paper : List Char) : List Char → Prop
  | intro {digits : List Char} (hne : digits ≠ []) (hdigits : ∀ c ∈ digits, isDigit c = true)
      (hslash : paper.getLast? ≠ some '/') : IsVersion paper (paper ++ 'v' :: digits)

theorem not_mem_digits {digits : List Char} (h : ∀ c ∈ digits, isDigit c = true) : 'v' ∉ digits :=
  fun hv => absurd (h 'v' hv) (by decide)

theorem stripVersion_of_isVersion {paper s : List Char} (h : IsVersion paper s) :
    stripVersion s = paper := by
  cases h with
  | @intro digits hne hdigits hslash =>
    have hreverse : (paper ++ 'v' :: digits).reverse = digits.reverse ++ 'v' :: paper.reverse := by
      simp
    have hall : ∀ c ∈ digits.reverse, isDigit c = true :=
      fun c hc => hdigits c (List.mem_reverse.mp hc)
    have hstop : ∀ c ∈ ('v' :: paper.reverse).head?, isDigit c = false := by
      intro c hc
      obtain rfl : 'v' = c := Option.some.inj hc
      rfl
    have hlast : ¬ paper.reverse.head? = some '/' := by rwa [List.head?_reverse]
    rw [stripVersion, hreverse, takeWhile_append_of_forall hall hstop,
      dropWhile_append_of_forall hall hstop]
    cases hdigits' : digits.reverse with
    | nil => exact absurd (List.reverse_eq_nil_iff.mp hdigits') hne
    | cons d ds => exact (if_neg hlast).trans (List.reverse_reverse paper)

theorem stripVersion_of_not_isVersion {s : List Char} (h : ∀ paper, ¬ IsVersion paper s) :
    stripVersion s = s := by
  have hsplit := List.takeWhile_append_dropWhile (p := isDigit) (l := s.reverse)
  rw [stripVersion]
  split
  · rename_i d ds before htake hdrop
    split
    · rfl
    · rename_i hslash
      rw [htake, hdrop] at hsplit
      have hs : s = before.reverse ++ 'v' :: (d :: ds).reverse := by
        rw [← List.reverse_reverse s, ← hsplit]
        simp
      refine absurd ?_ (h before.reverse)
      rw [hs]
      refine .intro (by simp) (fun c hc => ?_) (by rwa [List.getLast?_reverse])
      have hc : c ∈ s.reverse.takeWhile isDigit := htake ▸ List.mem_reverse.mp hc
      exact List.all_eq_true.mp List.all_takeWhile c hc
  · rfl

/-- It is the last `v` of a text that begins a version, if any does. -/
theorem isVersion_append_iff {paper paper' digits : List Char} (h : 'v' ∉ digits) :
    IsVersion paper' (paper ++ 'v' :: digits) ↔ paper' = paper ∧ digits ≠ [] ∧
      (∀ c ∈ digits, isDigit c = true) ∧ paper.getLast? ≠ some '/' := by
  constructor
  · generalize hs : paper ++ 'v' :: digits = s
    rintro ⟨hne, hdigits, hslash⟩
    have hlast := lastAt?_append (not_mem_digits hdigits) paper'
    rw [← hs, lastAt?_append h] at hlast
    obtain ⟨rfl, hrest⟩ := List.append_inj hs (Option.some.inj hlast)
    obtain rfl := (List.cons.inj hrest).2
    exact ⟨rfl, hne, hdigits, hslash⟩
  · rintro ⟨rfl, hne, hdigits, hslash⟩
    exact .intro hne hdigits hslash

/-! ## Marks -/

theorem after?_eq (mark s : List Char) :
    after? mark s = (firstAt? mark s).map fun i => s.drop (i + mark.length) := by
  induction s with
  | nil =>
    rw [after?, firstAt?]
    split <;> simp
  | cons c s ih =>
    rw [after?, firstAt?, ih]
    split
    · simp
    · cases firstAt? mark s with
      | none => rfl
      | some i =>
        have hnext : i + 1 + mark.length = i + mark.length + 1 := by omega
        simp [hnext]

theorem after?_append {mark before : List Char} (hne : mark ≠ []) (h : IsFirst mark before)
    (rest : List Char) : after? mark (before ++ (mark ++ rest)) = some rest := by
  have hdrop : (before ++ (mark ++ rest)).drop (before.length + mark.length) = rest := by
    rw [← List.append_assoc, ← List.length_append, List.drop_left]
  rw [after?_eq, firstAt?_append hne h, Option.map_some, hdrop]

theorem after?_eq_none {mark s : List Char} (h : ¬ mark <:+: s) : after? mark s = none := by
  rw [after?_eq, firstAt?_eq_none h, Option.map_none]

/-! ## Identifiers in bytes -/

def isDigitByte (b : UInt8) : Bool :=
  48 ≤ b.toNat && b.toNat ≤ 57

/-- The bytes of an identifier without its version; none where a cut would divide a character. -/
def stripVersionBytes? (bytes : List UInt8) : Option (List UInt8) :=
  match lastAt? (asciiByte 'v') bytes with
  | none => some bytes
  | some i =>
    if bytes.length ≤ i + 1 then some bytes
    else (bytesFrom? bytes (i + 1)).bind fun digits =>
      if digits.all isDigitByte then
        (bytesTo? bytes i).bind fun paper =>
          if paper.getLast? = some (asciiByte '/') then some bytes else some paper
      else some bytes

/-- The bytes of the identifier in an address; none where a cut would divide a character. -/
def identifierBytes? (bytes : List UInt8) : Option (List UInt8) :=
  match firstAt? (utf8 "/abs/".toList) bytes with
  | none => stripVersionBytes? bytes
  | some i => (bytesFrom? bytes (i + 5)).bind stripVersionBytes?

theorem forall_isDigitByte_iff {s : List Char} :
    (∀ b ∈ utf8 s, isDigitByte b = true) ↔ ∀ c ∈ s, isDigit c = true := by
  induction s with
  | nil => simp [utf8_eq]
  | cons c s ih =>
    by_cases hc : c.toNat < 128
    · have hbyte : isDigitByte (asciiByte c) = isDigit c := by
        rw [isDigitByte, toNat_asciiByte hc]
        rfl
      rw [utf8_cons_ascii hc, List.forall_mem_cons, List.forall_mem_cons, ih, hbyte]
    · have hnot : ¬ isDigit c = true := by
        simp only [isDigit, Bool.and_eq_true, decide_eq_true_eq]
        omega
      refine iff_of_false (fun h => ?_) fun h => hnot (h c List.mem_cons_self)
      obtain ⟨b, hb⟩ := List.exists_mem_of_ne_nil (utf8 [c]) (by simp [utf8_eq])
      have hle := le_of_mem_utf8_singleton (Nat.not_lt.mp hc) hb
      have hdigit := h b (by rw [utf8_cons]; exact List.mem_append_left _ hb)
      simp only [isDigitByte, Bool.and_eq_true, decide_eq_true_eq] at hdigit
      omega

theorem getLast?_utf8_iff {c : Char} (hc : c.toNat < 128) {s : List Char} :
    (utf8 s).getLast? = some (asciiByte c) ↔ s.getLast? = some c := by
  rcases List.eq_nil_or_concat s with rfl | ⟨s, d, rfl⟩
  · simp [utf8_eq]
  · rw [List.concat_eq_append, utf8_append, List.getLast?_append, List.getLast?_append]
    by_cases hd : d.toNat < 128
    · rw [utf8_ascii hd]
      simpa using eq_comm.trans ((asciiByte_inj hc hd).trans eq_comm)
    · cases hbytes : (utf8 [d]).getLast? with
      | none => simp [utf8_eq] at hbytes
      | some b =>
        have hb : asciiByte c ≠ b :=
          ne_of_mem_utf8 hc (Nat.not_lt.mp hd) (List.mem_of_getLast? hbytes)
        have hcd : c ≠ d := by
          rintro rfl
          exact hd hc
        simp [Ne.symm hb, Ne.symm hcd]

/-- Nothing stands behind a character of ASCII that is the last byte. -/
theorem length_utf8_le_iff {c : Char} (hc : c.toNat < 128) {before after : List Char} :
    (utf8 (before ++ c :: after)).length ≤ (utf8 before).length + 1 ↔ after = [] := by
  rw [utf8_append, utf8_cons_ascii hc, List.length_append, List.length_cons]
  cases after with
  | nil => simp [utf8_eq]
  | cons d after =>
    have hpos := length_utf8_cons_pos d after
    simp only [reduceCtorEq, iff_false]
    omega

/-- The bytes are cut on both sides of the last `v` and nowhere else. -/
theorem stripVersionBytes?_append {paper digits : List Char} (h : 'v' ∉ digits) :
    stripVersionBytes? (utf8 (paper ++ 'v' :: digits)) =
      some (if digits ≠ [] ∧ (∀ c ∈ digits, isDigit c = true) ∧ paper.getLast? ≠ some '/'
        then utf8 paper else utf8 (paper ++ 'v' :: digits)) := by
  have hv : 'v'.toNat < 128 := by decide
  have hfrom : bytesFrom? (utf8 (paper ++ 'v' :: digits)) ((utf8 paper).length + 1) =
      some (utf8 digits) :=
    bytesFrom?_mark (List.forall_mem_singleton.mpr hv) paper digits
  rw [stripVersionBytes?, lastAt?_utf8 hv h]
  simp only [hfrom, bytesTo?_append, Option.bind_some, length_utf8_le_iff hv, List.all_eq_true,
    forall_isDigitByte_iff, getLast?_utf8_iff (show '/'.toNat < 128 by decide)]
  by_cases hempty : digits = []
  · simp [hempty]
  by_cases hdigits : ∀ c ∈ digits, isDigit c = true
  · by_cases hslash : paper.getLast? = some '/'
    · rw [if_neg hempty, if_pos hdigits, if_pos hslash, if_neg fun h => h.2.2 hslash]
    · rw [if_neg hempty, if_pos hdigits, if_neg hslash, if_pos ⟨hempty, hdigits, hslash⟩]
  · rw [if_neg hempty, if_neg hdigits, if_neg fun h => hdigits h.2.1]

theorem stripVersionBytes?_utf8 (s : List Char) :
    stripVersionBytes? (utf8 s) = some (utf8 (stripVersion s)) := by
  by_cases hmem : 'v' ∈ s
  · obtain ⟨paper, digits, rfl, hdigits⟩ := exists_last hmem
    rw [stripVersionBytes?_append hdigits]
    split
    · rename_i hparts
      rw [stripVersion_of_isVersion ((isVersion_append_iff hdigits).mpr ⟨rfl, hparts⟩)]
    · rename_i hparts
      rw [stripVersion_of_not_isVersion fun _ h => hparts ((isVersion_append_iff hdigits).mp h).2]
  · have hnone : asciiByte 'v' ∉ utf8 s := mt (asciiByte_mem_utf8_iff (by decide)).mp hmem
    have hnot : ∀ paper, ¬ IsVersion paper s := by
      rintro paper ⟨-, -, -⟩
      exact hmem (by simp)
    rw [stripVersionBytes?, lastAt?_eq_none hnone, stripVersion_of_not_isVersion hnot]

theorem isAscii_mark : IsAscii "/abs/".toList := by
  unfold IsAscii
  decide

/-- No cut divides a character, and what is cut out are the bytes of the identifier. -/
theorem identifierBytes?_utf8 (e : Entry) :
    identifierBytes? (utf8 e.id.toList) = some (utf8 e.identifier) := by
  rw [identifierBytes?, Entry.identifier]
  by_cases hmark : "/abs/".toList <:+: e.id.toList
  · obtain ⟨front, rest, hid, hfirst⟩ := exists_isFirst (by decide) hmark
    have hcut : bytesFrom? (utf8 (front ++ ("/abs/".toList ++ rest))) ((utf8 front).length + 5) =
        some (utf8 rest) :=
      bytesFrom?_mark isAscii_mark front rest
    rw [hid, firstAt?_utf8 isAscii_mark (by decide) hfirst, after?_append (by decide) hfirst]
    simp only [hcut, Option.bind_some, Option.getD_some, stripVersionBytes?_utf8]
  · rw [firstAt?_eq_none (mt (infix_utf8_iff isAscii_mark).mp hmark), after?_eq_none hmark]
    exact stripVersionBytes?_utf8 _

/-! ## Addresses -/

/-- The address has `/abs/` for the first time right before this text. -/
def LeadsTo (address text : String) : Prop :=
  ∃ front : String, ¬ "/abs/".toList <:+: (front ++ "/abs").toList ∧
    address = front ++ "/abs/" ++ text

namespace Entry

variable {e : Entry} {text : String}

theorem identifier_of_leadsTo (h : LeadsTo e.id text) :
    e.identifier = stripVersion text.toList := by
  obtain ⟨front, hfront, hid⟩ := h
  have hfirst : IsFirst "/abs/".toList front.toList := by
    rwa [String.toList_append] at hfront
  rw [identifier, hid, String.toList_append, String.toList_append, List.append_assoc,
    after?_append (by decide) hfirst, Option.getD_some]

theorem arxivId_of_isVersion (h : LeadsTo e.id text) {paper : String}
    (hversion : IsVersion paper.toList text.toList) : e.arxivId = paper := by
  rw [arxivId, identifier_of_leadsTo h, stripVersion_of_isVersion hversion, String.ofList_toList]

theorem arxivId_of_not_isVersion (h : LeadsTo e.id text)
    (hversion : ∀ paper, ¬ IsVersion paper text.toList) : e.arxivId = text := by
  rw [arxivId, identifier_of_leadsTo h, stripVersion_of_not_isVersion hversion,
    String.ofList_toList]

theorem pdfUrl_of_forall (h : ∀ link ∈ e.links, link.isPdf = false) :
    e.pdfUrl = "https://arxiv.org/pdf" ++ "/" ++ e.arxivId := by
  have hnone : e.links.find? Link.isPdf = none :=
    List.find?_eq_none.mpr fun link hlink => by simp [h link hlink]
  rw [pdfUrl, hnone]
  rfl

/-- **The identity of a paper.** Behind the first `/abs/` of its address stands the identifier of an
entry. A version is not part of it, so all versions of a paper have one identifier, whatever stands
in front; a text that ends in no version is the identifier itself. Without a link to the paper its
address is made of the identifier. The identifier can be cut out of the bytes of any address, and no
cut divides a character. -/
theorem identifies (e : Entry) :
    (∀ text, LeadsTo e.id text →
      (∀ paper : String, IsVersion paper.toList text.toList → e.arxivId = paper ∧
        ∀ (e' : Entry) (text' : String), LeadsTo e'.id text' →
          IsVersion paper.toList text'.toList → e'.arxivId = e.arxivId) ∧
      ((∀ paper, ¬ IsVersion paper text.toList) → e.arxivId = text)) ∧
    ((∀ link ∈ e.links, link.title ≠ some "pdf" ∧ link.mediaType ≠ some "application/pdf") →
      e.pdfUrl = "https://arxiv.org/pdf" ++ "/" ++ e.arxivId) ∧
    identifierBytes? (utf8 e.id.toList) = some (utf8 e.arxivId.toList) := by
  refine ⟨fun text h => ⟨fun paper hversion => ?_, arxivId_of_not_isVersion h⟩, fun hlinks => ?_, ?_⟩
  · have hid : e.arxivId = paper := arxivId_of_isVersion h hversion
    exact ⟨hid, fun e' text' h' hversion' => (arxivId_of_isVersion h' hversion').trans hid.symm⟩
  · refine pdfUrl_of_forall fun link hlink => ?_
    obtain ⟨htitle, htype⟩ := hlinks link hlink
    rw [Link.isPdf, beq_false_of_ne htitle, beq_false_of_ne htype]
    rfl
  · rw [identifierBytes?_utf8, arxivId, String.toList_ofList]

/-- A `v` and digits within the identifier, another `/abs/` in it, and characters of several bytes;
and a `v` behind a slash, which begins no version. -/
theorem identifies_inner :
    let first := { default with id := "https://\u00e9.org/abs/caf\u00e9/abs/v9v12" }
    let second := { default with id := "/abs/caf\u00e9/abs/v9v3" }
    let third := { default with id := "x/abs/math/v2" }
    first.arxivId = "caf\u00e9/abs/v9" ∧ second.arxivId = first.arxivId ∧
      third.arxivId = "math/v2" ∧ third.pdfUrl = "https://arxiv.org/pdf/math/v2" := by
  intro first second third
  have hfirst : LeadsTo first.id "caf\u00e9/abs/v9v12" :=
    ⟨"https://\u00e9.org", by decide +kernel, by decide⟩
  have hsecond : LeadsTo second.id "caf\u00e9/abs/v9v3" := ⟨"", by decide +kernel, by decide⟩
  have hthird : LeadsTo third.id "math/v2" := ⟨"x", by decide +kernel, by decide⟩
  have hdigits : "12".toList ≠ [] ∧ "3".toList ≠ [] := by decide
  have htwelve : IsVersion "caf\u00e9/abs/v9".toList "caf\u00e9/abs/v9v12".toList :=
    .intro hdigits.1 (by decide) (by decide)
  have hthree : IsVersion "caf\u00e9/abs/v9".toList "caf\u00e9/abs/v9v3".toList :=
    .intro hdigits.2 (by decide) (by decide)
  have hnone : ∀ paper, ¬ IsVersion paper "math/v2".toList := by
    intro paper hversion
    have honly : 'v' ∉ "2".toList := by decide
    have hlast : IsVersion paper ("math/".toList ++ 'v' :: "2".toList) := hversion
    exact ((isVersion_append_iff honly).mp hlast).2.2.2 (by decide)
  obtain ⟨hid, hshared⟩ := ((identifies first).1 _ hfirst).1 "caf\u00e9/abs/v9" htwelve
  obtain ⟨haddress, hlinks, -⟩ := identifies third
  have hthirdId := (haddress _ hthird).2 hnone
  refine ⟨hid, hshared second _ hsecond hthree, hthirdId, ?_⟩
  rw [hlinks (List.forall_mem_nil _), hthirdId]
  decide

end Entry
end PaperSearch
