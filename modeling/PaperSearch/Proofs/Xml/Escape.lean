import PaperSearch.Proofs.Text.Cut
import PaperSearch.Proofs.Xml.Content

/-!
# Escaped text and attributes

The five characters that mean something in markup are written as references to their names, and
text that is written so is read back: `expand_escape`. Attributes with values written so are read
back from a tag, where a look-up finds the first one with a local name: `attribute?_withValues`.
-/

namespace PaperSearch.Xml

/-! ## Text -/

/-- The name of the reference to a character that is not written as it is. -/
def nameOf? (c : Char) : Option (List Char) :=
  if c = '<' then some "lt".toList
  else if c = '>' then some "gt".toList
  else if c = '&' then some "amp".toList
  else if c = '\'' then some "apos".toList
  else if c = '"' then some "quot".toList
  else none

def escapeChar (c : Char) : List Char :=
  match nameOf? c with
  | some name => '&' :: (name ++ [';'])
  | none => [c]

/-- A text with references in the place of all five characters. -/
def escape (s : List Char) : List Char :=
  s.flatMap escapeChar

/-- A name stands for the character that it is the name of. -/
theorem resolve_of_nameOf? {c : Char} {name : List Char} (h : nameOf? c = some name) (place : Nat) :
    resolve place name = .ok c ∧ ∀ d ∈ name, d ≠ ';' ∧ d ≠ '&' ∧ d ≠ '"' ∧ d ≠ '<' := by
  unfold nameOf? at h
  repeat' split at h
  all_goals first
    | (rename_i heq; subst heq; cases h; exact ⟨rfl, by decide⟩)
    | cases h

theorem ne_of_nameOf?_eq_none {c : Char} (h : nameOf? c = none) : c ≠ '&' ∧ c ≠ '"' ∧ c ≠ '<' := by
  refine ⟨?_, ?_, ?_⟩ <;>
    · rintro rfl
      cases h

/-- Escaped text ends no value and begins no markup. -/
theorem ne_of_mem_escape {s : List Char} {d : Char} (h : d ∈ escape s) : d ≠ '"' ∧ d ≠ '<' := by
  obtain ⟨c, -, hd⟩ := List.mem_flatMap.mp h
  unfold escapeChar at hd
  split at hd
  · rename_i name hname
    have hplain := (resolve_of_nameOf? hname 0).2
    simp only [List.mem_cons, List.mem_append, List.not_mem_nil, or_false] at hd
    rcases hd with rfl | hd | rfl
    · decide
    · exact (hplain d hd).2.2
    · decide
  · rename_i hname
    rw [List.mem_singleton.mp hd]
    exact (ne_of_nameOf?_eq_none hname).2

/-- A reference is read before the text behind it. -/
theorem expandFrom_reference {reference : List Char}
    (hplain : ∀ d ∈ reference, d ≠ ';' ∧ d ≠ '&') (size : Nat) (rest : List Char) :
    expandFrom size ('&' :: (reference ++ ';' :: rest)) =
      (resolve (size - Text.byteLength (reference ++ ';' :: rest)) reference).bind fun c =>
        (expandFrom size rest).map (c :: ·) := by
  have hcut := Text.cutAt?_append (fun hmem => (hplain _ hmem).1 rfl) rest
  rw [expandFrom, if_pos rfl]
  split
  · rename_i hnone
    cases hcut.symm.trans hnone
  · rename_i reference' after hsome
    cases hcut.symm.trans hsome
    have hcontains : ¬ reference.contains '&' = true := by
      rw [List.contains_iff_mem]
      exact fun hmem => (hplain _ hmem).2 rfl
    rw [if_neg hcontains]
    cases resolve (size - Text.byteLength (reference ++ ';' :: rest)) reference with
    | error fault => rfl
    | ok c => cases expandFrom size rest <;> rfl

theorem expandFrom_escapeChar (size : Nat) (c : Char) (rest : List Char) :
    expandFrom size (escapeChar c ++ rest) = (expandFrom size rest).map (c :: ·) := by
  unfold escapeChar
  split
  · rename_i name hname
    obtain ⟨hresolve, hplain⟩ :=
      resolve_of_nameOf? hname (size - Text.byteLength (name ++ ';' :: rest))
    have hname : ∀ d ∈ name, d ≠ ';' ∧ d ≠ '&' := fun d hd => ⟨(hplain d hd).1, (hplain d hd).2.1⟩
    rw [List.cons_append, List.append_assoc, List.singleton_append,
      expandFrom_reference hname, hresolve]
    rfl
  · rename_i hname
    rw [List.singleton_append, expandFrom, if_neg (ne_of_nameOf?_eq_none hname).1]

/-- **Escaped text is read back.** -/
theorem expand_escape (s : List Char) : expand (escape s) = .ok s := by
  have hfrom : ∀ size, expandFrom size (escape s) = .ok s := by
    intro size
    induction s with
    | nil => exact expandFrom.eq_1 size
    | cons c s ih =>
      rw [escape, List.flatMap_cons, expandFrom_escapeChar, ← escape, ih]
      rfl
  exact hfrom _

/-- A text without `&` holds no references. -/
theorem expand_of_not_mem {s : List Char} (h : '&' ∉ s) : expand s = .ok s := by
  have hfrom : ∀ size, expandFrom size s = .ok s := by
    intro size
    induction s with
    | nil => exact expandFrom.eq_1 size
    | cons c s ih =>
      have hc : c ≠ '&' := fun heq => h (heq ▸ List.mem_cons_self)
      rw [expandFrom, if_neg hc, ih fun hmem => h (List.mem_cons_of_mem c hmem)]
      rfl
  exact hfrom _

/-! ## Attributes -/

/-- A name of an element or of an attribute. -/
def IsName (s : List Char) : Prop :=
  s ≠ [] ∧ ∀ c ∈ s, isNameChar c = true

instance (s : List Char) : Decidable (IsName s) :=
  inferInstanceAs (Decidable (s ≠ [] ∧ ∀ c ∈ s, isNameChar c = true))

/-- Names and the values that they are given. -/
abbrev Values := List (List Char × List Char)

/-- The value of the first of the names with a local name. -/
def Values.get? (values : Values) (wanted : List Char) : Option (List Char) :=
  (values.find? fun v => localName v.1 == wanted).map Prod.snd

theorem Values.get?_cons (v : List Char × List Char) (values : Values) (wanted : List Char) :
    Values.get? (v :: values) wanted =
      if localName v.1 = wanted then some v.2 else values.get? wanted := by
  rw [Values.get?, List.find?_cons]
  by_cases h : localName v.1 = wanted
  · rw [if_pos h, beq_iff_eq.mpr h]
    rfl
  · rw [if_neg h, beq_false_of_ne h]
    rfl

/-- An attribute as it is written in a tag. -/
def writeValue (v : List Char × List Char) : List Char :=
  ' ' :: (v.1 ++ '=' :: '"' :: (escape v.2 ++ ['"']))

/-- The tag with a name and with attributes of these names and values. -/
def Tag.withValues (name : List Char) (values : Values) : Tag :=
  ⟨name ++ values.flatMap writeValue⟩

section

variable {name : List Char} {values : Values}

theorem head?_flatMap_writeValue (values : Values) :
    ∀ c ∈ (values.flatMap writeValue).head?, c = ' ' := by
  cases values with
  | nil => rintro c ⟨⟩
  | cons v values => rintro c ⟨⟩; rfl

theorem name_withValues (h : IsName name) : (Tag.withValues name values).name = name := by
  refine Text.takeWhile_append_of_forall (fun c hc => ?_) fun c hc => ?_
  · have hspace := (isNameChar_iff.mp (h.2 c hc)).1
    rw [hspace]
    rfl
  · rw [head?_flatMap_writeValue values c hc]
    rfl

theorem localName_withValues (h : IsName name) :
    (Tag.withValues name values).localName = localName name :=
  congrArg localName (name_withValues h)

theorem IsName.quotesClose (h : IsName name) : Text.quotesClose none name = true := by
  refine Text.quotesClose_of_forall fun c hc => ?_
  obtain ⟨-, -, hclose, -, -, -, -, -, hsingle, hdouble⟩ := isNameChar_iff.mp (h.2 c hc)
  exact ⟨hclose, hsingle, hdouble⟩

theorem quotesClose_writeValue {v : List Char × List Char} (h : IsName v.1) :
    Text.quotesClose none (writeValue v) = true := by
  have hquote : '"' ∉ escape v.2 := fun hmem => (ne_of_mem_escape hmem).1 rfl
  show Text.quotesClose none (v.1 ++ '=' :: '"' :: (escape v.2 ++ ['"'])) = true
  rw [Text.quotesClose_append h.quotesClose]
  exact Text.quotesClose_quoted hquote

theorem valid_withValues (hname : IsName name) (h : ∀ v ∈ values, IsName v.1) :
    (Tag.withValues name values).Valid where
  name_ne_nil := by
    rw [name_withValues hname]
    exact hname.1
  name_chars := by
    rw [name_withValues hname]
    exact hname.2
  quotes := by
    have hvalues : Text.quotesClose none (values.flatMap writeValue) = true := by
      induction values with
      | nil => rfl
      | cons v values ih =>
        rw [List.flatMap_cons, Text.quotesClose_append
          (quotesClose_writeValue (h v List.mem_cons_self))]
        exact ih fun w hw => h w (List.mem_cons_of_mem v hw)
    rw [Tag.withValues, Text.quotesClose_append hname.quotesClose]
    exact hvalues

/-- One attribute is read from what is written for it. -/
theorem readFrom_writeValue {v : List Char × List Char} (h : IsName v.1) (size : Nat)
    {seen : List (List Char × Nat)} (hseen : List.lookup v.1 seen = none) (rest : List Char) :
    ∃ place, Tag.readFrom size seen (writeValue v ++ rest) =
      .cons ⟨v.1, escape v.2⟩ (Tag.readFrom size ((v.1, place) :: seen) rest) := by
  obtain ⟨name, value⟩ := v
  obtain ⟨hne, hchars⟩ := h
  cases name with
  | nil => exact absurd rfl hne
  | cons c name =>
    dsimp only at hchars hseen
    have hspace : isSpace c = false := (isNameChar_iff.mp (hchars c List.mem_cons_self)).1
    have hinner : ∀ d ∈ name, (!Tag.endsName d) = true := by
      intro d hd
      have hd := isNameChar_iff.mp (hchars d (List.mem_cons_of_mem c hd))
      simp [Tag.endsName, hd]
    have hfront : (writeValue (c :: name, value) ++ rest).dropWhile isSpace =
        c :: (name ++ '=' :: '"' :: (escape value ++ '"' :: rest)) := by
      simp only [writeValue, List.cons_append, List.append_assoc, List.nil_append]
      rw [List.dropWhile_cons_of_pos rfl, List.dropWhile_cons_of_neg (by simp [hspace])]
    have hname : ∀ rest, (name ++ '=' :: rest).takeWhile (fun d => !Tag.endsName d) = name :=
      fun rest => Text.takeWhile_append_of_forall hinner (by rintro d ⟨⟩; rfl)
    have hequals : ∀ rest, ((name ++ '=' :: rest).dropWhile fun d => !Tag.endsName d).dropWhile
        isSpace = '=' :: rest := by
      intro rest
      rw [Text.dropWhile_append_of_forall hinner (by rintro d ⟨⟩; rfl)]
      rfl
    have hquote : '"' ∉ escape value := fun hmem => (ne_of_mem_escape hmem).1 rfl
    have hcut := Text.cutAt?_append hquote rest
    refine ⟨size - Text.byteLength (c :: (name ++ '=' :: '"' :: (escape value ++ '"' :: rest))), ?_⟩
    rw [Tag.readFrom]
    split
    · rename_i hnil
      cases hfront.symm.trans hnil
    · rename_i c' rest' hcons
      cases hfront.symm.trans hcons
      dsimp only
      rw [hname]
      split
      · rename_i after heq
        cases (hequals _).symm.trans heq
        rw [hseen]
        dsimp only
        split
        · rename_i hnil
          cases hnil
        · rename_i quote after hcons
          cases hcons
          rw [if_pos (Or.inl rfl)]
          split
          · rename_i hnone
            cases hcut.symm.trans hnone
          · rename_i raw after hsome
            cases hcut.symm.trans hsome
            rfl
      · rename_i hother
        exact absurd (hequals _) (hother _)

/-- The names of the attributes are names, and all of them differ. -/
structure Values.Named (values : Values) : Prop where
  names : ∀ v ∈ values, IsName v.1
  nodup : (values.map Prod.fst).Nodup

/-- Attributes are read in order, with no name among those before them. -/
theorem readFrom_writeValues (size : Nat) {seen : List (List Char × Nat)} (h : values.Named)
    (hseen : ∀ v ∈ values, List.lookup v.1 seen = none) :
    Tag.readFrom size seen (values.flatMap writeValue) =
      ⟨values.map fun v => ⟨v.1, escape v.2⟩, none⟩ := by
  induction values generalizing seen with
  | nil => rw [List.flatMap_nil, Tag.readFrom]; rfl
  | cons v values ih =>
    obtain ⟨hnames, hnodup⟩ := h
    rw [List.map_cons, List.nodup_cons] at hnodup
    obtain ⟨place, hread⟩ := readFrom_writeValue (hnames v List.mem_cons_self) size
      (hseen v List.mem_cons_self) (values.flatMap writeValue)
    have hrest : ∀ w ∈ values, List.lookup w.1 ((v.1, place) :: seen) = none := by
      intro w hw
      have hne : (w.1 == v.1) = false :=
        beq_false_of_ne fun heq => hnodup.1 (heq ▸ List.mem_map_of_mem hw)
      rw [List.lookup_cons, hne]
      exact hseen w (List.mem_cons_of_mem v hw)
    rw [List.flatMap_cons, hread,
      ih ⟨fun w hw => hnames w (List.mem_cons_of_mem v hw), hnodup.2⟩ hrest]
    rfl

/-- **Attributes are read back.** -/
theorem attribute?_withValues (hname : IsName name) (h : values.Named) (wanted : List Char) :
    (Tag.withValues name values).attribute? wanted = .ok (values.get? wanted) := by
  have hdrop : (Tag.withValues name values).content.dropWhile (fun c => !isSpace c) =
      values.flatMap writeValue := by
    refine Text.dropWhile_append_of_forall (fun c hc => ?_) fun c hc => ?_
    · rw [(isNameChar_iff.mp (hname.2 c hc)).1]
      rfl
    · rw [head?_flatMap_writeValue values c hc]
      rfl
  have hread : (Tag.withValues name values).attributes =
      ⟨values.map fun v => ⟨v.1, escape v.2⟩, none⟩ := by
    rw [Tag.attributes, hdrop]
    exact readFrom_writeValues _ h fun _ _ => rfl
  have hfind : values.find? ((fun a : Attribute => localName a.name == wanted) ∘
      fun v => ⟨v.1, escape v.2⟩) = values.find? fun v => localName v.1 == wanted := rfl
  rw [Tag.attribute?, hread, List.find?_map, hfind, Values.get?]
  cases values.find? fun v => localName v.1 == wanted with
  | none => rfl
  | some v =>
    simp only [Option.map_some, expand_escape]
    rfl

end
end PaperSearch.Xml
