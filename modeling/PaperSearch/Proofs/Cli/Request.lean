import PaperSearch.Cli.Request
import PaperSearch.Proofs.Client.Sending
import PaperSearch.Proofs.Search.Encoding

/-!
# What a command line asks for

Arguments give parameters exactly when a query or identifiers are given, the query can be read and
the window is within bounds (`Arguments.params_eq_ok_iff`); the parameters are then what the
arguments say.

A request is constrained if its text names a query or identifiers (`Params.IsConstrained`). An empty
query and blank identifiers are not named, although they are given: so the request that arguments
ask for is constrained exactly when a query is given that is not empty, or an identifier that is not
blank (`Arguments.asks_within_bounds`), and not whenever there is one (`not_params_constrained`).
-/

namespace PaperSearch

open Text

/-! ## Constrained requests -/

namespace Params

/-- The text of the request names a query or identifiers. -/
def IsConstrained (p : Params) : Prop :=
  ∃ pairs, Form.decode? p.encode.toList = some pairs ∧
    ∃ pair ∈ pairs, pair.1 = "search_query".toList ∨ pair.1 = "id_list".toList

theorem idText_eq_nil_iff {p : Params} :
    p.idText = [] ↔ ∀ id ∈ p.ids, id.toList.all isBlank = true := by
  have hfilter : (∀ id ∈ p.ids, id.toList.all isBlank = true) ↔
      (p.ids.filter fun id => !id.toList.all isBlank) = [] := by
    simp
  rw [hfilter, idText]
  cases hids : p.ids.filter fun id => !id.toList.all isBlank with
  | nil => simp
  | cons id rest =>
    have hid : id ∈ p.ids.filter fun id => !id.toList.all isBlank := hids ▸ List.mem_cons_self
    have hblank : trim id.toList ≠ [] := by
      rw [ne_eq, trim_eq_nil_iff, Bool.not_eq_true, ← Bool.not_eq_true']
      exact (List.mem_filter.mp hid).2
    cases rest with
    | nil => simp [hblank]
    | cons next rest => simp [List.intercalate_cons_cons, hblank]

theorem isConstrained_iff {p : Params} :
    p.IsConstrained ↔ p.query ≠ "" ∨ ∃ id ∈ p.ids, id.toList.all isBlank = false := by
  have hids : (∃ id ∈ p.ids, id.toList.all isBlank = false) ↔ p.idText ≠ [] := by
    rw [ne_eq, idText_eq_nil_iff]
    simp
  rw [hids]
  constructor
  · rintro ⟨pairs, hpairs, pair, hmem, hname⟩
    rw [decode?_encode] at hpairs
    obtain rfl := Option.some.inj hpairs
    obtain ⟨hasked, hsays⟩ := List.mem_filter.mp hmem
    simp only [asked, List.mem_cons, List.not_mem_nil, or_false] at hasked
    rcases hasked with rfl | rfl | rfl | rfl | rfl | rfl
    · left
      rintro hquery
      rw [hquery] at hsays
      exact absurd hsays (by decide)
    · right
      intro hnil
      rw [hnil] at hsays
      exact absurd hsays (by decide)
    all_goals
      simp only at hname
      exact absurd hname (by decide)
  · intro h
    refine ⟨_, decode?_encode p, ?_⟩
    rcases h with hquery | hids
    · refine ⟨("search_query".toList, p.query.toList), ?_, Or.inl rfl⟩
      exact List.mem_filter.mpr ⟨List.mem_cons_self, by simp [hquery]⟩
    · refine ⟨("id_list".toList, p.idText), ?_, Or.inr rfl⟩
      exact List.mem_filter.mpr ⟨List.mem_cons_of_mem _ List.mem_cons_self, by simp [hids]⟩

end Params

/-! ## Arguments -/

namespace Arguments

/-- The query that is given can be read. -/
def IsReadable (a : Arguments) : Prop :=
  ∀ query, a.query = some query → ∃ tree, Query.parse query = .ok tree

/-- What the arguments say of the search, whether or not it is accepted. -/
def request (a : Arguments) : Params :=
  { query := a.query.getD "", ids := a.ids, start := a.start, maxResults := a.maxResults,
    sortField := a.sortField, sortOrder := a.sortOrder }

theorem checkedQuery_eq_ok_iff {a : Arguments} {query : String} :
    a.checkedQuery = .ok query ↔ query = a.query.getD "" ∧ a.IsReadable := by
  unfold checkedQuery IsReadable
  cases a.query with
  | none => simp [eq_comm]
  | some given =>
    cases hparse : Query.parse given with
    | ok tree => simp [hparse, eq_comm]
    | error cause => simp [hparse]

theorem params_eq_ok_iff {a : Arguments} {p : Params} :
    a.params = .ok p ↔
      (a.query ≠ none ∨ a.ids ≠ []) ∧ a.IsReadable ∧ a.request.InBounds ∧ p = a.request := by
  have hgiven : (a.query.isNone && a.ids.isEmpty) = false ↔ a.query ≠ none ∨ a.ids ≠ [] := by
    rw [Bool.and_eq_false_iff, ← Option.isSome_iff_ne_none]
    simp
  rw [← hgiven, ← Params.check_eq_ok_iff]
  unfold params
  cases hnothing : a.query.isNone && a.ids.isEmpty with
  | true => simp
  | false =>
    cases hquery : a.checkedQuery with
    | error cause =>
      have hunreadable : ¬ a.IsReadable := fun hreadable => by
        rw [checkedQuery_eq_ok_iff.mpr ⟨rfl, hreadable⟩] at hquery
        cases hquery
      simp [hunreadable]
    | ok query =>
      obtain ⟨rfl, hreadable⟩ := checkedQuery_eq_ok_iff.mp hquery
      cases hcheck : a.request.check with
      | ok _ =>
        unfold request at hcheck
        simp [hcheck, hreadable, request, eq_comm]
      | error cause =>
        unfold request at hcheck
        simp [hcheck]

/-- **What a command line asks for.** Arguments that are accepted ask for the query as it is given,
which can be read, and for a window within bounds; and the request names a query or identifiers
exactly when a query is given that is not empty, or an identifier that is not blank. -/
theorem asks_within_bounds {a : Arguments} {p : Params} (h : a.params = .ok p) :
    (∀ query, a.query = some query →
      p.query = query ∧ ∃ tree, Query.parse p.query = .ok tree) ∧
    p.InBounds ∧
    (p.IsConstrained ↔ (∃ query, a.query = some query ∧ query ≠ "") ∨
      ∃ id ∈ a.ids, id.toList.all isBlank = false) := by
  obtain ⟨-, hreadable, hbounds, rfl⟩ := params_eq_ok_iff.mp h
  refine ⟨fun query hquery => ?_, hbounds, ?_⟩
  · have hsame : a.request.query = query := by
      show a.query.getD "" = query
      rw [hquery]
      rfl
    exact ⟨hsame, hsame ▸ hreadable query hquery⟩
  · have hempty : a.request.query ≠ "" ↔ ∃ query, a.query = some query ∧ query ≠ "" := by
      show a.query.getD "" ≠ "" ↔ _
      cases a.query <;> simp
    rw [Params.isConstrained_iff, hempty]
    rfl

/-- A query that has to be read, a blank identifier and another one. -/
def both : Arguments :=
  { Arguments.ofGiven .nothing with query := some "ti:x and (cat:cs.LG)", ids := [" ", "2101.1"] }

theorem asks_within_bounds_both :
    both.params = .ok both.request ∧ both.request.query = "ti:x and (cat:cs.LG)" ∧
      both.request.InBounds ∧ both.request.IsConstrained := by
  have hparams : both.params = .ok both.request := rfl
  obtain ⟨hquery, hbounds, hconstrained⟩ := asks_within_bounds hparams
  exact ⟨hparams, (hquery _ rfl).1, hbounds, hconstrained.mpr (Or.inl ⟨_, rfl, by decide⟩)⟩

/-- An empty query and nothing else. -/
def emptyQuery : Arguments :=
  { Arguments.ofGiven .nothing with query := some "" }

/-- A blank identifier and an empty one, and no number of results. -/
def blankIds : Arguments :=
  { Arguments.ofGiven .nothing with ids := [" ", ""], maxResults := 0 }

/-- An empty query can be read, and then ten papers are asked for, whatever they are; with blank
identifiers the request may say nothing at all. -/
theorem not_params_constrained :
    (parse ["--query", ""] = .ok emptyQuery ∧ emptyQuery.params = .ok emptyQuery.request ∧
      emptyQuery.request.encode = "max_results=10" ∧ ¬ emptyQuery.request.IsConstrained) ∧
    blankIds.params = .ok blankIds.request ∧ blankIds.request.encode = "" ∧
      ¬ blankIds.request.IsConstrained := by
  refine ⟨⟨rfl, rfl, by decide +kernel, ?_⟩, rfl, by decide, ?_⟩
  · rw [Params.isConstrained_iff]
    decide
  · rw [Params.isConstrained_iff]
    decide

end Arguments
end PaperSearch
