import Mathlib.Data.List.TakeWhile
import PaperSearch.Client.Cache
import PaperSearch.Proofs.Text.Digits
import PaperSearch.Proofs.Text.Form

/-!
# The text of a request

A search asks for six things: a query, identifiers, a place to start, a number of results, and what
to sort them by in which direction. The text of the request names those that say something, and it
is read back as these (`decode?_encode`). So two requests have one text exactly when they agree in
all six (`encode_eq_iff`), and they share a place in a cache exactly when they agree or their texts
have one digest though they differ (`cacheKey_eq_iff`).
-/

namespace PaperSearch

namespace Text

theorem trim_eq_nil_iff {s : List Char} : trim s = [] ↔ s.all isBlank = true := by
  rw [trim, trimRight, trimLeft, List.reverse_eq_nil_iff, List.dropWhile_eq_nil_iff,
    List.all_eq_true]
  constructor
  · intro h c hc
    rw [← List.takeWhile_append_dropWhile (p := isBlank) (l := s)] at hc
    rcases List.mem_append.mp hc with hc | hc
    · exact List.all_eq_true.mp List.all_takeWhile c hc
    · exact h c (List.mem_reverse.mpr hc)
  · intro h c hc
    exact h c ((List.dropWhile_suffix isBlank).subset (List.mem_reverse.mp hc))

theorem join_eq_intercalate (separator : List Char) (pieces : List (List Char)) :
    join separator pieces = separator.intercalate pieces := by
  fun_induction join separator pieces with
  | case1 => rfl
  | case2 piece => simp
  | case3 piece rest hne ih =>
    cases rest with
    | nil => exact absurd rfl hne
    | cons next rest => rw [ih, List.intercalate_cons_cons]

end Text

namespace Params

open Text

/-! ## What a search asks for -/

/-- The identifiers of the request in one text: those that are not blank, trimmed, with commas
between them. -/
def idText (p : Params) : List Char :=
  [','].intercalate <|
    (p.ids.filter fun id => !id.toList.all isBlank).map fun id => trim id.toList

/-- A count in digits; zero says nothing. -/
def countText (n : UInt64) : List Char :=
  if n = 0 then [] else decimal n.toNat

/-- The six things that a search asks for, under their names. What says nothing is empty. -/
def asked (p : Params) : List (List Char × List Char) :=
  [("search_query".toList, p.query.toList),
    ("id_list".toList, p.idText),
    ("start".toList, countText p.start),
    ("max_results".toList, countText p.maxResults),
    ("sortBy".toList, ((p.sortField.map SortField.name).getD "").toList),
    ("sortOrder".toList, ((p.sortOrder.map SortOrder.name).getD "").toList)]

/-- Two searches ask for the same six things. -/
structure Agrees (p q : Params) : Prop where
  query : p.query = q.query
  ids : p.idText = q.idText
  start : p.start = q.start
  maxResults : p.maxResults = q.maxResults
  sortField : p.sortField = q.sortField
  sortOrder : p.sortOrder = q.sortOrder

theorem join_sentIds (p : Params) : join [','] p.sentIds = p.idText := by
  rw [join_eq_intercalate, sentIds, idText, List.filter_map]
  have hblank : (fun id : List Char => !id.isEmpty) ∘ (fun id : String => trim id.toList) =
      fun id => !id.toList.all isBlank := by
    funext id
    rw [Function.comp_apply, Bool.eq_iff_iff, Bool.not_eq_true', Bool.not_eq_true',
      ← Bool.not_eq_true, ← Bool.not_eq_true, List.isEmpty_iff, trim_eq_nil_iff]
  rw [hblank]

/-! ## Named values -/

theorem pairUnlessEmpty_eq (name : String) (value : List Char) :
    pairUnlessEmpty name value =
      [(name.toList, value)].filter fun pair => !pair.2.isEmpty := by
  cases value <;> rfl

theorem pairUnlessZero_eq (name : String) (n : UInt64) :
    pairUnlessZero name n =
      [(name.toList, countText n)].filter fun pair => !pair.2.isEmpty := by
  unfold pairUnlessZero countText
  split
  · rfl
  · simp [decimal_ne_nil]

theorem pairIfSome_eq (name : String) {value : Option String} (h : value ≠ some "") :
    pairIfSome name value =
      [(name.toList, (value.getD "").toList)].filter fun pair => !pair.2.isEmpty := by
  cases value with
  | none => rfl
  | some value =>
    have hne : value ≠ "" := fun heq => h (congrArg some heq)
    simp [pairIfSome, hne]

/-- What is sent is what is asked for, without what says nothing. -/
theorem pairs_eq (p : Params) : p.pairs = p.asked.filter fun pair => !pair.2.isEmpty := by
  have hfield : p.sortField.map SortField.name ≠ some "" := by
    cases p.sortField with
    | none => simp
    | some field => cases field <;> decide
  have horder : p.sortOrder.map SortOrder.name ≠ some "" := by
    cases p.sortOrder with
    | none => simp
    | some order => cases order <;> decide
  rw [pairs, pairUnlessEmpty_eq, pairUnlessEmpty_eq, pairUnlessZero_eq, pairUnlessZero_eq,
    pairIfSome_eq _ hfield, pairIfSome_eq _ horder, join_sentIds]
  simp only [← List.filter_append]
  rfl

/-- Named values are known from those that are not empty, when no name comes twice. -/
theorem eq_of_filter_eq {l l' : List (List Char × List Char)}
    (hnames : l.map Prod.fst = l'.map Prod.fst) (hnodup : (l.map Prod.fst).Nodup)
    (h : (l.filter fun pair => !pair.2.isEmpty) = l'.filter fun pair => !pair.2.isEmpty) :
    l = l' := by
  induction l generalizing l' with
  | nil => exact (List.map_eq_nil_iff.mp hnames.symm).symm
  | cons pair l ih =>
    cases l' with
    | nil => cases hnames
    | cons pair' l' =>
      obtain ⟨name, value⟩ := pair
      obtain ⟨name', value'⟩ := pair'
      obtain ⟨rfl, hrest⟩ := List.cons.inj hnames
      obtain ⟨hfresh, hlater⟩ := List.nodup_cons.mp hnodup
      -- a value that only one of the two lists has would stand under a name that comes later
      have habsent : ∀ (rest : List (List Char × List Char)) {rest'} {kept : List Char},
          name ∉ rest.map Prod.fst →
          rest.filter (fun pair => !pair.2.isEmpty) ≠ (name, kept) :: rest' := by
        intro rest rest' kept hrest heq
        have hmem : (name, kept) ∈ rest.filter fun pair => !pair.2.isEmpty :=
          heq ▸ List.mem_cons_self
        exact hrest (List.mem_map_of_mem (f := Prod.fst) (List.mem_filter.mp hmem).1)
      have hfresh' : name ∉ l'.map Prod.fst := hrest ▸ hfresh
      cases value with
      | nil =>
        cases value' with
        | nil => rw [ih hrest hlater h]
        | cons c kept => exact absurd h (habsent l hfresh)
      | cons c kept =>
        cases value' with
        | nil => exact absurd h.symm (habsent l' hfresh')
        | cons c' kept' =>
          obtain ⟨hpair, htail⟩ := List.cons.inj h
          rw [hpair, ih hrest hlater htail]

/-! ## What a request says -/

theorem countText_inj {n m : UInt64} (h : countText n = countText m) : n = m := by
  unfold countText at h
  split at h <;> split at h
  · rename_i hn hm
    rw [hn, hm]
  · exact absurd h.symm (decimal_ne_nil _)
  · exact absurd h (decimal_ne_nil _)
  · have hvalue := count?_decimal n
    rw [h, count?_decimal] at hvalue
    exact (Option.some.inj hvalue).symm

theorem asked_eq_iff {p q : Params} : p.asked = q.asked ↔ p.Agrees q := by
  have hfield : ∀ a b : Option SortField,
      (a.map SortField.name).getD "" = (b.map SortField.name).getD "" → a = b := by
    rintro (_ | _ | _ | _) (_ | _ | _ | _) h
    all_goals first | rfl | exact absurd h (by decide)
  have horder : ∀ a b : Option SortOrder,
      (a.map SortOrder.name).getD "" = (b.map SortOrder.name).getD "" → a = b := by
    rintro (_ | _ | _) (_ | _ | _) h
    all_goals first | rfl | exact absurd h (by decide)
  constructor
  · intro h
    simp only [asked, List.cons.injEq, Prod.mk.injEq, true_and, and_true, String.toList_inj] at h
    obtain ⟨hquery, hids, hstart, hmax, hby, hdirection⟩ := h
    exact ⟨hquery, hids, countText_inj hstart, countText_inj hmax, hfield _ _ hby,
      horder _ _ hdirection⟩
  · intro h
    simp only [asked, h.query, h.ids, h.start, h.maxResults, h.sortField, h.sortOrder]

theorem decode?_encode (p : Params) :
    Form.decode? p.encode.toList = some (p.asked.filter fun pair => !pair.2.isEmpty) := by
  rw [encode, String.toList_ofList, Form.decode?_formPairs, pairs_eq]

theorem nodup_names (p : Params) : (p.asked.map Prod.fst).Nodup := by
  show ["search_query".toList, "id_list".toList, "start".toList, "max_results".toList,
    "sortBy".toList, "sortOrder".toList].Nodup
  decide

theorem encode_eq_iff {p q : Params} : p.encode = q.encode ↔ p.Agrees q := by
  constructor
  · intro h
    have hsent := decode?_encode p
    rw [h, decode?_encode] at hsent
    exact asked_eq_iff.mp (eq_of_filter_eq rfl p.nodup_names (Option.some.inj hsent.symm))
  · intro h
    rw [encode, encode, pairs_eq, pairs_eq, asked_eq_iff.mpr h]

/-- The texts differ and have one digest. -/
def Collide (s t : String) : Prop :=
  s ≠ t ∧ Md5.hex s.toList = Md5.hex t.toList

theorem cacheKey_eq_iff {p q : Params} :
    p.cacheKey = q.cacheKey ↔ p.Agrees q ∨ Collide p.encode q.encode := by
  have hdigest : p.cacheKey = q.cacheKey ↔
      Md5.hex p.encode.toList = Md5.hex q.encode.toList := by
    rw [cacheKey, cacheKey, String.ofList_inj]
  rw [hdigest, ← encode_eq_iff, Collide]
  by_cases h : p.encode = q.encode
  · simp [h]
  · simp [h]

/-- **The text of a request loses nothing.** It has no character outside the form alphabet, and it
is read back as the six things that the search asks for, in order, without what says nothing. Two
searches have one text exactly when they agree in all six, and one place in a cache exactly when
they agree or the digest fails to tell their texts apart. -/
theorem encode_faithful (p : Params) :
    (∀ c ∈ p.encode.toList, Form.isFormChar c = true) ∧
    Form.decode? p.encode.toList = some (p.asked.filter fun pair => !pair.2.isEmpty) ∧
    ∀ q : Params, (p.encode = q.encode ↔ p.Agrees q) ∧
      (p.cacheKey = q.cacheKey ↔ p.Agrees q ∨ Collide p.encode q.encode) := by
  refine ⟨fun c hc => ?_, decode?_encode p, fun q => ⟨encode_eq_iff, cacheKey_eq_iff⟩⟩
  rw [encode, String.toList_ofList] at hc
  exact Form.isFormChar_of_mem_formPairs hc

/-- Separators, a plus sign and a letter outside ASCII in the query, and a blank identifier. -/
example :
    let p : Params := ⟨"a&b=\u00e9 +", [" x ", "\t", "y,z"], 0, 0, none, some .ascending⟩
    p.encode = "search_query=a%26b%3D%C3%A9+%2B&id_list=x%2Cy%2Cz&sortOrder=ascending" ∧
      Form.decode? p.encode.toList = some [("search_query".toList, "a&b=\u00e9 +".toList),
        ("id_list".toList, "x,y,z".toList), ("sortOrder".toList, "ascending".toList)] := by
  decide

end Params
end PaperSearch
