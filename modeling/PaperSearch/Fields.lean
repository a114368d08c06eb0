/-!
# Fields

The fields of a record are pairs of a name and a value, in the order in which the names came.
The value of a name is that of its first pair, `List.lookup`.

* `Fields.put` sets the value of a name.
* `Fields.lookup_put` says what the names have then.
-/

namespace PaperSearch.Fields

variable {α : Type}

/-- Sets a name, at its place if it is there, else at the end. -/
def put (name : String) (value : α) : List (String × α) → List (String × α)
  | [] => [(name, value)]
  | (n, v) :: rest => if n = name then (n, value) :: rest else (n, v) :: put name value rest

theorem lookup_put (name other : String) (value : α) (fields : List (String × α)) :
    (put name value fields).lookup other =
      if other = name then some value else fields.lookup other := by
  induction fields with
  | nil =>
    by_cases h : other = name
    · simp [put, h]
    · simp [put, List.lookup_cons, h, beq_false_of_ne h]
  | cons field rest ih =>
    obtain ⟨n, v⟩ := field
    by_cases hn : n = name
    · by_cases h : other = name
      · simp [put, hn, h]
      · simp [put, hn, h, List.lookup_cons, beq_false_of_ne h]
    · by_cases ho : other = n
      · simp [put, hn, ho]
      · simp [put, hn, List.lookup_cons, beq_false_of_ne ho, ih]

end PaperSearch.Fields
