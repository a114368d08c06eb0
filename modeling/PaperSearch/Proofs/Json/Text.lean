import PaperSearch.Json.Parser
import PaperSearch.Proofs.Json.Lexeme

/-!
# Values read back from texts

A value that is written as text, in one line or in many, is read back (`Json.parse?_compact`,
`Json.parse?_pretty`) if it is not nested too deeply, if no object in it has two values under one
name, and if 64 bits hold its integers (`Json.Fits`).

Either layout lays out the lexemes of the value (`Json.lexemes`) with white space between them. The
parser takes these lexemes, wherever a value may stand, for that value (`Json.Taken`).
-/

namespace PaperSearch

theorem Fields.put_of_not_mem {α : Type} {name : String} {value : α} {fields : List (String × α)}
    (h : name ∉ fields.map Prod.fst) : put name value fields = fields ++ [(name, value)] := by
  induction fields with
  | nil => rfl
  | cons field fields ih =>
    rw [List.map_cons, List.mem_cons, not_or] at h
    rw [put, if_neg (Ne.symm h.1), ih h.2]
    rfl

namespace Json

/-! ## Lexemes of values -/

mutual

/-- The lexemes of a value. -/
def lexemes : Json → List Lexeme
  | arr [] => [.openArray, .closeArray]
  | arr (item :: rest) => .openArray :: (item.lexemes ++ moreItems rest ++ [.closeArray])
  | obj [] => [.openObject, .closeObject]
  | obj ((name, value) :: rest) =>
    .openObject :: .scalar (.str name) :: .colon ::
      (value.lexemes ++ moreFields rest ++ [.closeObject])
  | null => [.scalar null]
  | bool b => [.scalar (bool b)]
  | int n => [.scalar (int n)]
  | decimal negative mantissa exponent => [.scalar (decimal negative mantissa exponent)]
  | str s => [.scalar (str s)]

/-- Items that follow others. -/
def moreItems : List Json → List Lexeme
  | [] => []
  | item :: rest => .comma :: (item.lexemes ++ moreItems rest)

/-- Fields that follow others. -/
def moreFields : List (String × Json) → List Lexeme
  | [] => []
  | (name, value) :: rest =>
    .comma :: .scalar (.str name) :: .colon :: (value.lexemes ++ moreFields rest)

end

/-- A value that is not nested deeper than that, with nothing in it that is lost in a text. -/
inductive Fits : Nat → Json → Prop
  | word {depth : Nat} {v : Json} (h : Lexeme.IsWord v) : Fits depth v
  | str (depth : Nat) (s : String) : Fits depth (.str s)
  | arr {depth : Nat} {items : List Json} (h : ∀ item ∈ items, Fits depth item) :
      Fits (depth + 1) (.arr items)
  | obj {depth : Nat} {fields : List (String × Json)} (hnames : (fields.map Prod.fst).Nodup)
      (h : ∀ field ∈ fields, Fits depth field.2) : Fits (depth + 1) (.obj fields)

/-! ## Lexemes put together -/

namespace Assembly

variable {limit : Nat} {a a' : Assembly} {rest : List Lexeme}

theorem run?_cons {l : Lexeme} (h : a.step? limit l = some a') :
    a.run? limit (l :: rest) = a'.run? limit rest := by
  rw [run?, h]

theorem run?_scalar {v : Json} (h : a.takesValue = true) :
    a.run? limit (.scalar v :: rest) = (a.complete v).run? limit rest :=
  run?_cons (if_pos h)

end Assembly

/-- Where a value may stand, with so much room, the lexemes of this one are taken for it. -/
def Taken (limit depth : Nat) (j : Json) : Prop :=
  ∀ (a : Assembly) (rest : List Lexeme), a.takesValue = true → a.frames.length + depth ≤ limit →
    a.run? limit (j.lexemes ++ rest) = (a.complete j).run? limit rest

section Taken

variable {limit depth : Nat} {frames : List Frame} {result : Option Json} {rest : List Lexeme}

theorem run?_moreItems {items : List Json} (h : ∀ item ∈ items, Taken limit depth item)
    (hroom : frames.length + 1 + depth ≤ limit) (before : List Json) :
    Assembly.run? limit ⟨.array before :: frames, .commaOrClose, result⟩ (moreItems items ++ rest) =
      Assembly.run? limit ⟨.array (items.reverse ++ before) :: frames, .commaOrClose, result⟩
        rest := by
  induction items generalizing before with
  | nil => rfl
  | cons item items ih =>
    have hcomma : Assembly.step? limit ⟨.array before :: frames, .commaOrClose, result⟩ .comma =
        some ⟨.array before :: frames, .value, result⟩ := rfl
    have hitem := h item List.mem_cons_self ⟨.array before :: frames, .value, result⟩
      (moreItems items ++ rest) rfl hroom
    rw [moreItems, List.cons_append, Assembly.run?_cons hcomma, List.append_assoc, hitem]
    refine (ih (fun other hother => h other (List.mem_cons_of_mem item hother)) _).trans ?_
    rw [List.reverse_cons, List.append_assoc]
    rfl

theorem run?_moreFields {fields : List (String × Json)}
    (h : ∀ field ∈ fields, Taken limit depth field.2)
    (hroom : frames.length + 1 + depth ≤ limit) (before : List (String × Json))
    (hnames : ((before ++ fields).map Prod.fst).Nodup) (last : String) :
    ∃ last', Assembly.run? limit ⟨.object before last :: frames, .commaOrClose, result⟩
        (moreFields fields ++ rest) =
      Assembly.run? limit ⟨.object (before ++ fields) last' :: frames, .commaOrClose, result⟩
        rest := by
  induction fields generalizing before last with
  | nil => exact ⟨last, by rw [List.append_nil]; rfl⟩
  | cons field fields ih =>
    obtain ⟨name, value⟩ := field
    have hcomma : Assembly.step? limit ⟨.object before last :: frames, .commaOrClose, result⟩
        .comma = some ⟨.object before last :: frames, .name, result⟩ := rfl
    have hname : Assembly.step? limit ⟨.object before last :: frames, .name, result⟩
        (.scalar (.str name)) = some ⟨.object before last :: frames, .colon name, result⟩ := rfl
    have hcolon : Assembly.step? limit ⟨.object before last :: frames, .colon name, result⟩
        .colon = some ⟨.object before name :: frames, .value, result⟩ := rfl
    have hnew : name ∉ before.map Prod.fst := by
      rw [List.map_append, List.map_cons, List.nodup_append] at hnames
      exact fun hmem => hnames.2.2 name hmem name List.mem_cons_self rfl
    rw [List.append_cons] at hnames ⊢
    obtain ⟨last', hrest⟩ :=
      ih (fun other hother => h other (List.mem_cons_of_mem _ hother)) _ hnames name
    have hvalue := h (name, value) List.mem_cons_self
      ⟨.object before name :: frames, .value, result⟩ (moreFields fields ++ rest) rfl hroom
    refine ⟨last', ?_⟩
    rw [← hrest, moreFields, List.cons_append, Assembly.run?_cons hcomma, List.cons_append,
      Assembly.run?_cons hname, List.cons_append, Assembly.run?_cons hcolon, List.append_assoc,
      hvalue, ← Fields.put_of_not_mem hnew]
    rfl

theorem taken_arr {items : List Json} (h : ∀ item ∈ items, Taken limit depth item) :
    Taken limit (depth + 1) (.arr items) := by
  intro a rest htakes hroom
  have hopen : a.step? limit .openArray =
      some { a with frames := .array [] :: a.frames, expected := .valueOrClose } := by
    rw [Assembly.step?, htakes, Bool.true_and, if_pos (decide_eq_true (by omega))]
  cases items with
  | nil =>
    rw [lexemes, List.cons_append, Assembly.run?_cons hopen]
    exact Assembly.run?_cons rfl
  | cons item items =>
    have hinner : a.frames.length + 1 + depth ≤ limit := by omega
    have hitem := h item List.mem_cons_self
      { a with frames := .array [] :: a.frames, expected := .valueOrClose }
      (moreItems items ++ (.closeArray :: rest)) rfl hinner
    rw [lexemes, List.cons_append, Assembly.run?_cons hopen, List.append_assoc, List.append_assoc]
    refine hitem.trans ((run?_moreItems
      (fun other hother => h other (List.mem_cons_of_mem item hother)) hinner [item]).trans ?_)
    rw [Assembly.run?_cons (l := .closeArray) rfl, List.reverse_append, List.reverse_reverse]
    rfl

theorem taken_obj {fields : List (String × Json)} (hnames : (fields.map Prod.fst).Nodup)
    (h : ∀ field ∈ fields, Taken limit depth field.2) : Taken limit (depth + 1) (.obj fields) := by
  intro a rest htakes hroom
  have hopen : a.step? limit .openObject =
      some { a with frames := .object [] "" :: a.frames, expected := .nameOrClose } := by
    rw [Assembly.step?, htakes, Bool.true_and, if_pos (decide_eq_true (by omega))]
  cases fields with
  | nil =>
    rw [lexemes, List.cons_append, Assembly.run?_cons hopen]
    exact Assembly.run?_cons rfl
  | cons field fields =>
    obtain ⟨name, value⟩ := field
    have hinner : a.frames.length + 1 + depth ≤ limit := by omega
    have hname : Assembly.step? limit
        { a with frames := .object [] "" :: a.frames, expected := .nameOrClose }
        (.scalar (.str name)) =
      some { a with frames := .object [] "" :: a.frames, expected := .colon name } := rfl
    have hcolon : Assembly.step? limit
        { a with frames := .object [] "" :: a.frames, expected := .colon name } .colon =
      some { a with frames := .object [] name :: a.frames, expected := .value } := rfl
    have hvalue := h (name, value) List.mem_cons_self
      { a with frames := .object [] name :: a.frames, expected := .value }
      (moreFields fields ++ (.closeObject :: rest)) rfl hinner
    obtain ⟨last, hrest⟩ := run?_moreFields
      (fun other hother => h other (List.mem_cons_of_mem _ hother)) hinner [(name, value)] hnames
      name
    rw [lexemes, List.cons_append, Assembly.run?_cons hopen, List.cons_append,
      Assembly.run?_cons hname, List.cons_append, Assembly.run?_cons hcolon, List.append_assoc,
      List.append_assoc]
    refine hvalue.trans (hrest.trans ?_)
    exact Assembly.run?_cons rfl

/-- A value that fits is taken for itself. -/
theorem Fits.taken {j : Json} (h : Fits depth j) (limit : Nat) : Taken limit depth j := by
  induction h with
  | word hword =>
    intro a rest htakes _
    cases hword <;> exact Assembly.run?_scalar htakes
  | str depth s =>
    intro a rest htakes _
    exact Assembly.run?_scalar htakes
  | arr _ ih => exact taken_arr ih
  | obj hnames _ ih => exact taken_obj hnames ih

end Taken

/-! ## Layouts -/

open Lexeme (Laid EndsWord)

/-- A text lays out the lexemes of a value, whatever follows that no word goes on with. -/
def Lays (s : List Char) (j : Json) : Prop :=
  ∀ (lexemes : List Lexeme) (rest : List Char), EndsWord rest → Laid lexemes rest →
    Laid (j.lexemes ++ lexemes) (s ++ rest)

section Layouts

variable {lexemes : List Lexeme} {s : List Char}

theorem endsWord_cons {c : Char} (h : (Lexeme.isNumberChar c || Lexeme.isNameChar c) = false)
    (s : List Char) : EndsWord (c :: s) := by
  rintro d ⟨⟩
  exact Bool.or_eq_false_iff.mp h

theorem lays_scalar {v : Json} (h : Lexeme.IsWord v) (hlexemes : v.lexemes = [.scalar v]) :
    Lays v.scalar v := by
  intro lexemes rest hrest hlaid
  rw [hlexemes]
  exact .word h hrest hlaid

/-! ### In one line -/

theorem laid_compactItems {items : List Json} (hs : EndsWord s) (hlaid : Laid lexemes s) :
    ∀ item, (∀ other ∈ item :: items, Lays other.compact other) →
      Laid (item.lexemes ++ (moreItems items ++ lexemes)) (compactItems (item :: items) ++ s) := by
  induction items with
  | nil => exact fun item h => h item List.mem_cons_self lexemes s hs hlaid
  | cons next items ih =>
    intro item h
    have hrest := ih next fun other hother => h other (List.mem_cons_of_mem item hother)
    have hitem := h item List.mem_cons_self _ (',' :: (compactItems (next :: items) ++ s))
      (endsWord_cons (by decide) _) (.mark (l := .comma) rfl hrest)
    rw [moreItems, List.cons_append, List.append_assoc, compactItems, List.append_assoc]
    · exact hitem
    · exact List.cons_ne_nil _ _

theorem laid_compactFields {fields : List (String × Json)} (hs : EndsWord s)
    (hlaid : Laid lexemes s) : ∀ name value,
    (∀ field ∈ (name, value) :: fields, Lays field.2.compact field.2) →
      Laid (.scalar (.str name) :: .colon :: (value.lexemes ++ (moreFields fields ++ lexemes)))
        (compactFields ((name, value) :: fields) ++ s) := by
  induction fields with
  | nil =>
    intro name value h
    have hvalue := h (name, value) List.mem_cons_self lexemes s hs hlaid
    rw [compactFields, List.append_assoc]
    exact .quote name (.mark (l := .colon) rfl hvalue)
  | cons next fields ih =>
    obtain ⟨name', value'⟩ := next
    intro name value h
    have hrest := ih name' value' fun other hother => h other (List.mem_cons_of_mem _ hother)
    have hvalue := h (name, value) List.mem_cons_self _
      (',' :: (compactFields ((name', value') :: fields) ++ s)) (endsWord_cons (by decide) _)
      (.mark (l := .comma) rfl hrest)
    rw [moreFields, compactFields]
    · simp only [List.cons_append, List.append_assoc]
      exact .quote name (.mark (l := .colon) rfl hvalue)
    · exact List.cons_ne_nil _ _

theorem Fits.lays_compact {depth : Nat} {j : Json} (h : Fits depth j) : Lays j.compact j := by
  induction h with
  | word hword => cases hword <;> exact lays_scalar (by constructor <;> assumption) rfl
  | str depth s => exact fun lexemes rest _ hlaid => .quote s hlaid
  | @arr depth items _ ih =>
    intro lexemes rest hrest hlaid
    have hclose : Laid (.closeArray :: lexemes) (']' :: rest) := .mark rfl hlaid
    cases items with
    | nil => exact .mark (l := .openArray) rfl hclose
    | cons item items =>
      have hitems := laid_compactItems (endsWord_cons (by decide) rest) hclose item ih
      rw [Json.lexemes, compact, List.cons_append, List.append_assoc, List.append_assoc,
        List.append_assoc]
      exact .mark (l := .openArray) rfl hitems
  | @obj depth fields _ _ ih =>
    intro lexemes rest hrest hlaid
    have hclose : Laid (.closeObject :: lexemes) ('\x7d' :: rest) := .mark rfl hlaid
    cases fields with
    | nil => exact .mark (l := .openObject) rfl hclose
    | cons field fields =>
      obtain ⟨name, value⟩ := field
      have hfields := laid_compactFields (endsWord_cons (by decide) rest) hclose name value ih
      rw [Json.lexemes, compact, List.cons_append, List.append_assoc]
      simp only [List.cons_append, List.append_assoc]
      exact .mark (l := .openObject) rfl hfields

/-! ### In many lines -/

theorem laid_newline (level : Nat) (h : Laid lexemes s) : Laid lexemes (newline level ++ s) := by
  have hblank : ∀ n, Laid lexemes (List.replicate n ' ' ++ s) := by
    intro n
    induction n with
    | zero => exact h
    | succ n ih => exact .space rfl ih
  exact .space rfl (hblank (2 * level))

theorem endsWord_newline (level : Nat) (s : List Char) : EndsWord (newline level ++ s) :=
  endsWord_cons (by decide) _

theorem endsWord_prettyItems (level : Nat) (items : List Json) (outer : Nat) (s : List Char) :
    EndsWord (prettyItems level items ++ (newline outer ++ s)) := by
  cases items with
  | nil => exact endsWord_newline outer s
  | cons item items => exact endsWord_cons (by decide) _

theorem endsWord_prettyFields (level : Nat) (fields : List (String × Json)) (outer : Nat)
    (s : List Char) : EndsWord (prettyFields level fields ++ (newline outer ++ s)) := by
  cases fields with
  | nil => exact endsWord_newline outer s
  | cons field fields => exact endsWord_cons (by decide) _

theorem laid_prettyItems {level : Nat} {items : List Json}
    (h : ∀ item ∈ items, Lays (prettyAt level item) item) (outer : Nat)
    (hlaid : Laid lexemes s) :
    Laid (moreItems items ++ lexemes) (prettyItems level items ++ (newline outer ++ s)) := by
  induction items with
  | nil => exact laid_newline outer hlaid
  | cons item items ih =>
    have hrest := ih fun other hother => h other (List.mem_cons_of_mem item hother)
    have hitem := h item List.mem_cons_self _ _ (endsWord_prettyItems level items outer s) hrest
    rw [moreItems, prettyItems]
    simp only [List.cons_append, List.append_assoc]
    exact .mark (l := .comma) rfl (laid_newline level hitem)

theorem laid_prettyFields {level : Nat} {fields : List (String × Json)}
    (h : ∀ field ∈ fields, Lays (prettyAt level field.2) field.2) (outer : Nat)
    (hlaid : Laid lexemes s) :
    Laid (moreFields fields ++ lexemes) (prettyFields level fields ++ (newline outer ++ s)) := by
  induction fields with
  | nil => exact laid_newline outer hlaid
  | cons field fields ih =>
    obtain ⟨name, value⟩ := field
    have hrest := ih fun other hother => h other (List.mem_cons_of_mem _ hother)
    have hvalue := h (name, value) List.mem_cons_self _ _
      (endsWord_prettyFields level fields outer s) hrest
    rw [moreFields, prettyFields]
    simp only [List.cons_append, List.append_assoc]
    exact .mark (l := .comma) rfl (laid_newline level
      (.quote name (.mark (l := .colon) rfl (.space rfl hvalue))))

theorem Fits.lays_prettyAt {depth : Nat} {j : Json} (h : Fits depth j) (level : Nat) :
    Lays (prettyAt level j) j := by
  induction h generalizing level with
  | word hword => cases hword <;> exact lays_scalar (by constructor <;> assumption) rfl
  | str depth s => exact fun lexemes rest _ hlaid => .quote s hlaid
  | @arr depth items _ ih =>
    intro lexemes rest hrest hlaid
    have hclose : Laid (.closeArray :: lexemes) (']' :: rest) := .mark rfl hlaid
    cases items with
    | nil => exact .mark (l := .openArray) rfl hclose
    | cons item items =>
      have hitems := laid_prettyItems
        (fun other hother => ih other (List.mem_cons_of_mem item hother) (level + 1)) level hclose
      have hitem := ih item List.mem_cons_self (level + 1) _ _
        (endsWord_prettyItems (level + 1) items level _) hitems
      rw [Json.lexemes, prettyAt]
      simp only [List.cons_append, List.append_assoc]
      exact .mark (l := .openArray) rfl (laid_newline (level + 1) hitem)
  | @obj depth fields _ _ ih =>
    intro lexemes rest hrest hlaid
    have hclose : Laid (.closeObject :: lexemes) ('\x7d' :: rest) := .mark rfl hlaid
    cases fields with
    | nil => exact .mark (l := .openObject) rfl hclose
    | cons field fields =>
      obtain ⟨name, value⟩ := field
      have hfields := laid_prettyFields
        (fun other hother => ih other (List.mem_cons_of_mem _ hother) (level + 1)) level hclose
      have hvalue := ih (name, value) List.mem_cons_self (level + 1) _ _
        (endsWord_prettyFields (level + 1) fields level _) hfields
      rw [Json.lexemes, prettyAt]
      simp only [List.cons_append, List.append_assoc]
      exact .mark (l := .openObject) rfl (laid_newline (level + 1)
        (.quote name (.mark (l := .colon) rfl (.space rfl hvalue))))

end Layouts

/-- A text that lays out a value is read as it. -/
theorem parse?_of_laid {limit depth : Nat} {j : Json} {s : List Char} (h : Fits depth j)
    (hdepth : depth ≤ limit) (hlaid : Lexeme.Laid j.lexemes s) : parse? limit s = some j := by
  have hroom : Assembly.start.frames.length + depth ≤ limit := by
    show 0 + depth ≤ limit
    omega
  have hrun := h.taken limit .start [] rfl hroom
  rw [List.append_nil] at hrun
  rw [parse?, Lexeme.ofText?_of_laid hlaid]
  show (Assembly.start.run? limit j.lexemes).bind _ = _
  rw [hrun]
  rfl

theorem Lays.laid {s : List Char} {j : Json} (h : Lays s j) : Laid j.lexemes s := by
  have hlaid := h [] [] nofun .nil
  rw [List.append_nil, List.append_nil] at hlaid
  exact hlaid

/-- A value is read back from one line. -/
theorem parse?_compact {limit depth : Nat} {j : Json} (h : Fits depth j) (hdepth : depth ≤ limit) :
    parse? limit j.compact = some j :=
  parse?_of_laid h hdepth h.lays_compact.laid

/-- A value is read back from many lines. -/
theorem parse?_pretty {limit depth : Nat} {j : Json} (h : Fits depth j) (hdepth : depth ≤ limit) :
    parse? limit j.pretty.toList = some j := by
  rw [pretty, String.toList_ofList]
  exact parse?_of_laid h hdepth (h.lays_prettyAt 0).laid

end Json
end PaperSearch
