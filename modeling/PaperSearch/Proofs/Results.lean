/-!
# Results of readers

What is read is a value or a fault. Readers are made of others by `Except.bind` and `Except.map`,
and a value that is read so is taken apart by these lemmas.
-/

namespace PaperSearch

variable {ε α β γ : Type} {x : Except ε α}

theorem map_map (f : α → β) (g : β → γ) (x : Except ε α) :
    (x.map f).map g = x.map (fun a => g (f a)) := by
  cases x <;> rfl

theorem exists_of_map_eq_ok {f : α → β} {b : β} (h : x.map f = .ok b) :
    ∃ a, x = .ok a ∧ f a = b := by
  cases x with
  | error e => cases h
  | ok a => exact ⟨a, rfl, Except.ok.inj h⟩

/-- Of two computations one after the other that end well the first ends well. -/
theorem exists_of_bind_eq_ok {f : α → Except ε β} {b : β} (h : x.bind f = .ok b) :
    ∃ a, x = .ok a ∧ f a = .ok b := by
  cases x with
  | error fault => cases h
  | ok a => exact ⟨a, rfl, h⟩

theorem exists_ok_and_iff {a : α} {P : α → Prop} (h : x = .ok a) :
    (∃ b, x = .ok b ∧ P b) ↔ P a := by
  rw [h]
  constructor
  · rintro ⟨b, hb, hP⟩
    cases hb
    exact hP
  · exact fun hP => ⟨a, rfl, hP⟩

theorem eq_ok_of_toOption {a : α} (h : x.toOption = some a) : x = .ok a := by
  cases x with
  | error fault => cases h
  | ok b => exact congrArg Except.ok (Option.some.inj h)

end PaperSearch
