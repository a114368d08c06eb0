import PaperSearch.Paper.PageJson
import PaperSearch.Proofs.Json.Text
import PaperSearch.Proofs.Time.Lenient

/-!
# Records read back from JSON

What is written for a page, or for any part of one, is read back as it (`Json.ReadsBack`): texts,
64-bit counts, instants of any year, lists, and texts that may be missing, whether they are left out
then or written as `null`.

A record is read field by field, so that it is read back when each of its fields is found and read
back: `required?_of_lookup`, `optional?_ofOption` and `optional?_of_lookup_map` are the three kinds
of fields. No record has two fields of one name and none is nested deeply (`Json.Fits`), so that
what is written as text is read back as well.
-/

namespace PaperSearch

namespace Json

variable {α : Type} {write : α → Json} {read : Json → Option α}

/-- What is written is read back. -/
def ReadsBack (write : α → Json) (read : Json → Option α) : Prop :=
  ∀ a, read (write a) = some a

/-! ## Values -/

theorem readsBack_str : ReadsBack str string? :=
  fun _ => rfl

theorem readsBack_ofCount : ReadsBack ofCount count? := by
  intro n
  have hbounds : (0 : Int) ≤ (n.toNat : Int) ∧ (n.toNat : Int) < (UInt64.size : Int) :=
    ⟨Int.natCast_nonneg _, Int.ofNat_lt.mpr n.toNat_lt⟩
  show ((natBelow? UInt64.size (int n.toNat)).map UInt64.ofNat) = some n
  rw [natBelow?, if_pos hbounds, Option.map_some, Int.toNat_natCast, UInt64.ofNat_toNat]

theorem ReadsBack.list (h : ReadsBack write read) :
    ReadsBack (fun items => arr (items.map write)) (list? read) := by
  intro items
  show (items.map write).mapM read = some items
  induction items with
  | nil => rfl
  | cons a items ih =>
    rw [List.map_cons, List.mapM_cons, h a, ih]
    rfl

/-! ## Fields -/

section Fields

variable {fields : List (String × Json)} {name : String}

theorem required?_of_lookup {value : Json} {a : α} (hlookup : fields.lookup name = some value)
    (hread : read value = some a) : required? name read fields = some a := by
  rw [required?, hlookup]
  exact hread

theorem defaulted?_of_lookup {missing : α} {value : Json} {a : α}
    (hlookup : fields.lookup name = some value) (hread : read value = some a) :
    defaulted? name read missing fields = some a := by
  rw [defaulted?, hlookup]
  exact hread

theorem optional?_of_lookup {value : Json} (hlookup : fields.lookup name = some value)
    (hvalue : value ≠ null) : optional? name read fields = (read value).map some := by
  rw [optional?, hlookup]
  cases value with
  | null => exact absurd rfl hvalue
  | _ => rfl

/-- A field that is `null` when it has no value. -/
theorem optional?_ofOption (h : ReadsBack write read) (hnull : ∀ a, write a ≠ null) {o : Option α}
    (hlookup : fields.lookup name = some (ofOption write o)) :
    optional? name read fields = some o := by
  cases o with
  | none =>
    rw [optional?, hlookup]
    rfl
  | some a =>
    rw [optional?_of_lookup hlookup (hnull a), ofOption, h a]
    rfl

/-- A field that is left out when it has no value. -/
theorem optional?_of_lookup_map {o : Option String} (hlookup : fields.lookup name = o.map str) :
    optional? name string? fields = some o := by
  rw [optional?, hlookup]
  cases o with
  | none => rfl
  | some s => rfl

theorem lookup_present (name name' : String) (o : Option String) :
    (present name o).lookup name' = if name' == name then o.map str else none := by
  cases o with
  | none =>
    rw [present, List.lookup_nil, Option.map_none, ite_self]
  | some s =>
    rw [present, List.lookup_cons, List.lookup_nil]
    cases name' == name with
    | true => rfl
    | false => rfl

end Fields

end Json

open Json

/-! ## Parts of a page -/

theorem Author.readsBack : ReadsBack Author.toJson Author.ofJson? := by
  intro a
  obtain ⟨fields, hobj⟩ : ∃ fields, a.toJson = .obj fields := ⟨_, rfl⟩
  have hname : fields.lookup "name" = some (.str a.name) := by
    cases hobj
    rfl
  have haffiliation : fields.lookup "affiliation" = a.affiliation.map .str := by
    cases hobj
    exact lookup_present "affiliation" "affiliation" a.affiliation
  rw [hobj]
  simp only [ofJson?, record?, Option.bind_eq_bind, Option.bind_some,
    required?_of_lookup hname (readsBack_str _), optional?_of_lookup_map haffiliation]
  rfl

theorem Category.readsBack : ReadsBack Category.toJson Category.ofJson? :=
  fun _ => rfl

theorem Link.readsBack : ReadsBack Link.toJson Link.ofJson? := by
  intro l
  obtain ⟨fields, hobj⟩ : ∃ fields, l.toJson = .obj fields := ⟨_, rfl⟩
  have hlookup : ∀ name, fields.lookup name =
      if name == "href" then some (.str l.href)
      else (((if name == "rel" then l.rel.map .str else none).or
        (if name == "type" then l.mediaType.map .str else none)).or
        (if name == "title" then l.title.map .str else none)) := by
    intro name
    cases hobj
    rw [List.lookup_cons, List.lookup_append, List.lookup_append, lookup_present, lookup_present,
      lookup_present]
    cases name == "href" <;> rfl
  have hhref : fields.lookup "href" = some (.str l.href) := hlookup "href"
  have hrel : fields.lookup "rel" = l.rel.map .str := by
    rw [hlookup "rel"]
    cases l.rel <;> rfl
  have htype : fields.lookup "type" = l.mediaType.map .str := by
    rw [hlookup "type"]
    cases l.mediaType <;> rfl
  have htitle : fields.lookup "title" = l.title.map .str := hlookup "title"
  rw [hobj]
  simp only [ofJson?, record?, Option.bind_eq_bind, Option.bind_some,
    required?_of_lookup hhref (readsBack_str _), optional?_of_lookup_map hrel,
    optional?_of_lookup_map htype, optional?_of_lookup_map htitle]
  rfl

/-! ## Entries -/

theorem Time.Instant.readsBack : ReadsBack Time.Instant.toJson Time.Instant.ofJson? := by
  intro t
  rw [ofJson?, toJson, string?, Option.bind_some, String.toList_ofList]
  exact Time.Rfc3339.parseLenient?_render t

theorem Time.Instant.toJson_ne_null (t : Time.Instant) : t.toJson ≠ .null := by
  rw [toJson]
  exact Json.noConfusion

/-- Each field of what is written for an object is found in it. -/
theorem exists_fields {j : Json} (h : ∃ fields, j = .obj fields) : ∃ fields, j = .obj fields ∧
    ∀ name {value}, j.field? name = some value → fields.lookup name = some value := by
  obtain ⟨fields, rfl⟩ := h
  exact ⟨fields, rfl, fun _ _ hvalue => hvalue⟩

theorem Entry.readsBack : ReadsBack Entry.toJson Entry.ofJson? := by
  intro e
  obtain ⟨fields, hobj, hfield⟩ := exists_fields (j := e.toJson) ⟨_, rfl⟩
  have hinstant : ∀ name {o : Option Time.Instant},
      e.toJson.field? name = some (ofOption Time.Instant.toJson o) →
      optional? name Time.Instant.ofJson? fields = some o := fun name _ h =>
    optional?_ofOption Time.Instant.readsBack Time.Instant.toJson_ne_null (hfield name h)
  have htext : ∀ name {o : Option String}, e.toJson.field? name = some (ofOption .str o) →
      optional? name string? fields = some o := fun name _ h =>
    optional?_ofOption readsBack_str nofun (hfield name h)
  rw [hobj]
  simp only [ofJson?, record?, Option.bind_eq_bind, Option.bind_some,
    required?_of_lookup (hfield "id" rfl) (readsBack_str _),
    required?_of_lookup (hfield "title" rfl) (readsBack_str _),
    required?_of_lookup (hfield "summary" rfl) (readsBack_str _),
    hinstant "published" rfl, hinstant "updated" rfl,
    required?_of_lookup (hfield "authors" rfl) (Author.readsBack.list _),
    required?_of_lookup (hfield "categories" rfl) (Category.readsBack.list _),
    optional?_ofOption Category.readsBack nofun (hfield "primary_category" rfl),
    required?_of_lookup (hfield "links" rfl) (Link.readsBack.list _),
    htext "comment" rfl, htext "journal_ref" rfl, htext "doi" rfl]
  rfl

/-! ## Pages -/

theorem SortField.readsBack : ReadsBack (fun f : SortField => .str f.name) SortField.ofJson? := by
  intro f
  cases f <;> rfl

theorem SortOrder.readsBack : ReadsBack (fun o : SortOrder => .str o.name) SortOrder.ofJson? := by
  intro o
  cases o <;> rfl

theorem Params.readsBack : ReadsBack Params.toJson Params.ofJson? := by
  intro p
  obtain ⟨fields, hobj, hfield⟩ := exists_fields (j := p.toJson) ⟨_, rfl⟩
  rw [hobj]
  simp only [ofJson?, record?, Option.bind_eq_bind, Option.bind_some,
    required?_of_lookup (hfield "query" rfl) (readsBack_str _),
    required?_of_lookup (hfield "id_list" rfl) (readsBack_str.list _),
    required?_of_lookup (hfield "start" rfl) (readsBack_ofCount _),
    required?_of_lookup (hfield "max_results" rfl) (readsBack_ofCount _),
    optional?_ofOption SortField.readsBack nofun (hfield "sort_by" rfl),
    optional?_ofOption SortOrder.readsBack nofun (hfield "sort_order" rfl)]
  rfl

theorem Page.readsBack : ReadsBack Page.toJson Page.ofJson? := by
  intro p
  obtain ⟨fields, hobj, hfield⟩ := exists_fields (j := p.toJson) ⟨_, rfl⟩
  rw [hobj]
  simp only [ofJson?, record?, Option.bind_eq_bind, Option.bind_some,
    required?_of_lookup (hfield "entries" rfl) (Entry.readsBack.list _),
    required?_of_lookup (hfield "start_index" rfl) (readsBack_ofCount _),
    required?_of_lookup (hfield "items_per_page" rfl) (readsBack_ofCount _),
    required?_of_lookup (hfield "total_results" rfl) (readsBack_ofCount _),
    required?_of_lookup (hfield "title" rfl) (readsBack_str _),
    required?_of_lookup (hfield "id" rfl) (readsBack_str _),
    required?_of_lookup (hfield "updated" rfl) (readsBack_str _),
    required?_of_lookup (hfield "links" rfl) (Link.readsBack.list _),
    defaulted?_of_lookup (hfield "params" rfl) (Params.readsBack _)]
  rfl

/-! ## Texts -/

section Texts

variable {depth : Nat}

theorem fits_ofOption {α : Type} {write : α → Json} (h : ∀ a, Fits depth (write a))
    (o : Option α) : Fits depth (ofOption write o) := by
  cases o with
  | none => exact .word .null
  | some a => exact h a

theorem fits_list {α : Type} {write : α → Json} (h : ∀ a, Fits depth (write a))
    (items : List α) : Fits (depth + 1) (.arr (items.map write)) := by
  refine .arr fun item hitem => ?_
  obtain ⟨a, -, rfl⟩ := List.mem_map.mp hitem
  exact h a

theorem fits_ofCount (n : UInt64) : Fits depth (ofCount n) := by
  have hlt : n.toNat < 2 ^ 64 := n.toNat_lt
  refine .word (.int ⟨?_, ?_⟩)
  · omega
  · omega

theorem fits_of_mem_present {name : String} {o : Option String} {field : String × Json}
    (h : field ∈ present name o) : Fits depth field.2 := by
  cases o with
  | none => cases h
  | some s =>
    rw [List.mem_singleton.mp h]
    exact .str depth s

theorem names_present_sublist (name : String) (o : Option String) :
    ((present name o).map Prod.fst).Sublist [name] := by
  cases o with
  | none => exact List.nil_sublist _
  | some s => exact .refl _

theorem Author.fits (depth : Nat) (a : Author) : Fits (depth + 1) a.toJson := by
  refine .obj ?_ fun field hfield => ?_
  · have hnames : ["name", "affiliation"].Nodup := by decide
    exact hnames.sublist ((names_present_sublist _ _).cons_cons "name")
  · rcases List.mem_cons.mp hfield with rfl | hfield
    · exact .str depth a.name
    · exact fits_of_mem_present hfield

theorem Category.fits (depth : Nat) (c : Category) : Fits (depth + 1) c.toJson := by
  have hnames : ["term"].Nodup := by decide
  refine .obj hnames fun field hfield => ?_
  rw [List.mem_singleton.mp hfield]
  exact .str depth c.term

theorem Link.fits (depth : Nat) (l : Link) : Fits (depth + 1) l.toJson := by
  refine .obj ?_ fun field hfield => ?_
  · have hnames : ["href", "rel", "type", "title"].Nodup := by decide
    refine hnames.sublist ?_
    rw [List.map_cons, List.map_append, List.map_append]
    exact (((names_present_sublist "rel" _).append (names_present_sublist "type" _)).append
      (names_present_sublist "title" _)).cons_cons "href"
  · rcases List.mem_cons.mp hfield with rfl | hfield
    · exact .str depth l.href
    · rcases List.mem_append.mp hfield with hfield | hfield
      · rcases List.mem_append.mp hfield with hfield | hfield
        · exact fits_of_mem_present hfield
        · exact fits_of_mem_present hfield
      · exact fits_of_mem_present hfield

theorem Entry.fits (depth : Nat) (e : Entry) : Fits (depth + 3) e.toJson := by
  have hnames : Entry.fieldNames.Nodup := by decide
  have htext : ∀ s, Fits (depth + 2) (.str s) := .str _
  have hinstant : ∀ o : Option Time.Instant, Fits (depth + 2) (ofOption Time.Instant.toJson o) :=
    fits_ofOption fun _ => .str _ _
  refine .obj hnames ?_
  simp only [List.forall_mem_cons]
  exact ⟨htext _, htext _, htext _, hinstant _, hinstant _, fits_list (Author.fits depth) _,
    fits_list (Category.fits depth) _, fits_ofOption (Category.fits (depth + 1)) _,
    fits_list (Link.fits depth) _, fits_ofOption htext _, fits_ofOption htext _,
    fits_ofOption htext _, fun _ h => absurd h List.not_mem_nil⟩

theorem Params.fits (depth : Nat) (p : Params) : Fits (depth + 2) p.toJson := by
  have hnames : Params.fieldNames.Nodup := by decide
  refine .obj hnames ?_
  simp only [List.forall_mem_cons]
  exact ⟨.str _ _, fits_list (.str depth) _, fits_ofCount _, fits_ofCount _,
    fits_ofOption (fun _ => .str _ _) _, fits_ofOption (fun _ => .str _ _) _,
    fun _ h => absurd h List.not_mem_nil⟩

theorem Page.fits (depth : Nat) (p : Page) : Fits (depth + 5) p.toJson := by
  have hnames : Page.fieldNames.Nodup := by decide
  refine .obj hnames ?_
  simp only [feedFields, List.cons_append, List.nil_append, List.forall_mem_cons]
  exact ⟨fits_list (Entry.fits depth) _, fits_ofCount _, fits_ofCount _, fits_ofCount _,
    .str _ _, .str _ _, .str _ _, fits_list (Link.fits (depth + 2)) _,
    Params.fits (depth + 2) p.params, fun _ h => absurd h List.not_mem_nil⟩

end Texts

/-- Nothing is lost by writing. -/
structure Json.IsLossless {α : Type} (write : α → Json) (read : Json → Option α) : Prop where
  readsBack : ReadsBack write read
  /-- What was read from any value is written so that it is read again. -/
  again : ∀ j a, read j = some a → read (write a) = some a
  /-- It is read back from its text, in one line or in many, by a parser that allows five levels of
  arrays and objects. -/
  text : ∀ a limit, 5 ≤ limit → (parse? limit (write a).compact).bind read = some a ∧
    (parse? limit (write a).pretty.toList).bind read = some a

theorem Json.ReadsBack.isLossless {α : Type} {write : α → Json} {read : Json → Option α}
    (h : ReadsBack write read) {depth : Nat} (hdepth : depth ≤ 5)
    (hfits : ∀ a, Fits depth (write a)) : IsLossless write read := by
  refine ⟨h, fun _ a _ => h a, fun a limit hlimit => ?_⟩
  have hroom := Nat.le_trans hdepth hlimit
  rw [parse?_compact (hfits a) hroom, parse?_pretty (hfits a) hroom]
  exact ⟨h a, h a⟩

/-- **Records in JSON.** Pages, entries, authors, links and parameters are read back as they were
written, as values and as texts, and what was read of any of them, from whatever value, is read
again as it is written. -/
theorem records_readBack : IsLossless Page.toJson Page.ofJson? ∧
    IsLossless Entry.toJson Entry.ofJson? ∧ IsLossless Author.toJson Author.ofJson? ∧
    IsLossless Link.toJson Link.ofJson? ∧ IsLossless Params.toJson Params.ofJson? :=
  ⟨Page.readsBack.isLossless (by decide) (Page.fits 0),
    Entry.readsBack.isLossless (by decide) (Entry.fits 0),
    Author.readsBack.isLossless (by decide) (Author.fits 0),
    Link.readsBack.isLossless (by decide) (Link.fits 0),
    Params.readsBack.isLossless (by decide) (Params.fits 0)⟩

/-- An author that is read from an array is written as an object, and read again, also as text. -/
theorem records_readBack_author :
    Author.ofJson? (.arr [.str "Ada"]) = some ⟨"Ada", none⟩ ∧
      Author.ofJson? (Author.toJson ⟨"Ada", none⟩) = some ⟨"Ada", none⟩ ∧
      (parse? 5 (Author.toJson ⟨"Ada", none⟩).compact).bind Author.ofJson? =
        some ⟨"Ada", none⟩ := by
  have hread : Author.ofJson? (.arr [.str "Ada"]) = some ⟨"Ada", none⟩ := rfl
  obtain ⟨-, -, hlossless, -, -⟩ := records_readBack
  exact ⟨hread, hlossless.again _ _ hread, (hlossless.text _ 5 (Nat.le_refl 5)).1⟩

end PaperSearch
