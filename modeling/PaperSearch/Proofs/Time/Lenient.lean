import PaperSearch.Proofs.Time.Rfc3339

/-!
# Timestamps of any year read back

What is written for an instant is read back as it by the lenient reader, whatever its year
(`parseLenient?_render`): years outside 0 to 9999 are written with a sign, and only the lenient
reader takes them.

Each part is read with what follows left general: a number by `number_written`, a year by
`year_yearDigits`. What follows must only not go on with another digit.
-/

namespace PaperSearch

/-! ## Digits in enough places -/

namespace Text

theorem natural?_padded {places n : Nat} (hpos : 0 < places) (h : n < Nat.pow 10 places) :
    natural? (padded places n) = some n := by
  have hread := naturalFrom?_padded places n
  rw [Nat.mod_eq_of_lt h] at hread
  cases hdigits : padded places n with
  | nil =>
    have hlength := length_padded places n
    rw [hdigits] at hlength
    exact absurd hlength (Nat.ne_of_lt hpos)
  | cons c rest =>
    rw [hdigits] at hread
    exact hread

theorem natural?_atLeast {places : Nat} (hpos : 0 < places) (n : Nat) :
    natural? (atLeast places n) = some n := by
  unfold atLeast
  split
  · exact natural?_padded hpos (by assumption)
  · exact natural?_decimal n

theorem isDigit_of_mem_atLeast {places n : Nat} {c : Char} (h : c ∈ atLeast places n) :
    isDigit c = true := by
  unfold atLeast at h
  split at h
  · exact isDigit_of_mem_padded h
  · exact isDigit_of_mem_decimal h

end Text

namespace Time.Rfc3339

open Text

/-! ## Parts -/

section Parts

variable {digits rest : List Char}

theorem dropWhile_isBlank_of_head? (h : ∀ c ∈ rest.head?, isBlank c = false) :
    rest.dropWhile isBlank = rest :=
  dropWhile_append_of_forall (fun _ hc => absurd hc List.not_mem_nil) h

theorem blanks_of_head? (h : ∀ c ∈ rest.head?, isBlank c = false) :
    blanks rest = .ok ((), rest) := by
  rw [blanks, dropWhile_isBlank_of_head? h]

/-- A number is one or more digits. -/
theorem exists_cons_of_natural? {n : Nat} (h : natural? digits = some n) :
    ∃ c more, digits = c :: more := by
  cases digits with
  | nil => cases h
  | cons c more => exact ⟨c, more, rfl⟩

theorem number_written {most n : Nat} (hlength : digits.length ≤ most)
    (hdigits : ∀ c ∈ digits, isDigit c = true) (hrest : ∀ c ∈ rest.head?, isDigit c = false)
    (hnumber : natural? digits = some n) : number most (digits ++ rest) = .ok (n, rest) := by
  obtain ⟨c, more, hcons⟩ := exists_cons_of_natural? hnumber
  have hhead : ∀ d ∈ (digits ++ rest).head?, isBlank d = false := by
    rw [hcons]
    rintro d ⟨⟩
    exact isBlank_of_isDigit (hdigits c (hcons ▸ List.mem_cons_self))
  have htake := takeWhile_append_of_forall hdigits hrest
  rw [number, dropWhile_isBlank_of_head? hhead, htake, List.take_of_length_le hlength]
  simp only [hnumber, List.drop_left]

/-- A month, a day, an hour, a minute or a second is read back. -/
theorem number_padded {n : Nat} (h : n < 100) (hrest : ∀ c ∈ rest.head?, isDigit c = false) :
    number 2 (padded 2 n ++ rest) = .ok (n, rest) :=
  number_written (Nat.le_of_eq (length_padded 2 n)) (fun _ hc => isDigit_of_mem_padded hc) hrest
    (natural?_padded (by decide) h)

theorem year_minus {c : Char} (h : isDigit c = true) (more : List Char) :
    year ('-' :: c :: more) =
      (number (c :: more).length (c :: more)).map fun (n, r) => (-(n : Int), r) := by
  have hdrop : ('-' :: c :: more).dropWhile isBlank = '-' :: c :: more :=
    dropWhile_isBlank_of_head? (by rintro d ⟨⟩; decide)
  unfold year
  rw [hdrop]
  exact if_pos h

theorem year_plus {c : Char} (h : isDigit c = true) (more : List Char) :
    year ('+' :: c :: more) =
      (number (c :: more).length (c :: more)).map fun (n, r) => ((n : Int), r) := by
  have hdrop : ('+' :: c :: more).dropWhile isBlank = '+' :: c :: more :=
    dropWhile_isBlank_of_head? (by rintro d ⟨⟩; decide)
  unfold year
  rw [hdrop]
  exact if_pos h

theorem year_of_isDigit {c : Char} (h : isDigit c = true) (more : List Char) :
    year (c :: more) = (number 4 (c :: more)).map fun (n, r) => ((n : Int), r) := by
  have hdrop : (c :: more).dropWhile isBlank = c :: more :=
    dropWhile_isBlank_of_head? (by rintro d ⟨⟩; exact isBlank_of_isDigit h)
  unfold year
  rw [hdrop]
  split
  · rename_i heq
    cases heq
    exact absurd h (by decide)
  · rename_i heq
    cases heq
    exact absurd h (by decide)
  · rfl

/-- A year is read back, with its sign if it has one. -/
theorem year_yearDigits (y : Int) (hrest : ∀ c ∈ rest.head?, isDigit c = false) :
    year (Instant.yearDigits y ++ rest) = .ok (y, rest) := by
  unfold Instant.yearDigits
  split
  · rename_i hrange
    have hnumber : natural? (padded 4 y.toNat) = some y.toNat :=
      natural?_padded (by decide) (by show y.toNat < 10000; omega)
    obtain ⟨c, more, hcons⟩ := exists_cons_of_natural? hnumber
    have hc : isDigit c = true := isDigit_of_mem_padded (hcons ▸ List.mem_cons_self)
    have hread := number_written (Nat.le_of_eq (length_padded 4 y.toNat))
      (fun _ hc => isDigit_of_mem_padded hc) hrest hnumber
    rw [hcons] at hread ⊢
    rw [List.cons_append] at hread ⊢
    rw [year_of_isDigit hc, hread]
    show Except.ok ((y.toNat : Int), rest) = _
    rw [Int.toNat_of_nonneg hrange.1]
  · have hnumber := natural?_atLeast (by decide : 0 < 4) y.natAbs
    obtain ⟨c, more, hcons⟩ := exists_cons_of_natural? hnumber
    have hc : isDigit c = true := isDigit_of_mem_atLeast (hcons ▸ List.mem_cons_self)
    have hread : number (atLeast 4 y.natAbs ++ rest).length (atLeast 4 y.natAbs ++ rest) =
        .ok (y.natAbs, rest) := by
      refine number_written ?_ (fun _ hc => isDigit_of_mem_atLeast hc) hrest hnumber
      rw [List.length_append]
      exact Nat.le_add_right _ _
    rw [hcons] at hread ⊢
    rw [List.cons_append] at hread
    split
    · have hvalue : -(y.natAbs : Int) = y := by omega
      rw [List.cons_append, List.cons_append, year_minus hc, hread]
      show Except.ok (-(y.natAbs : Int), rest) = _
      rw [hvalue]
    · have hvalue : (y.natAbs : Int) = y := by omega
      rw [List.cons_append, List.cons_append, year_plus hc, hread]
      show Except.ok ((y.natAbs : Int), rest) = _
      rw [hvalue]

end Parts

/-! ## Instants -/

/-- **Timestamps of any year are read back.** -/
theorem parseLenient?_render (t : Instant) : parseLenient? (render t) = some t := by
  have hmonth : t.date.month < 100 := by
    have hle := Instant.month_le_of_isReal t.isReal_date
    omega
  have hday : t.date.day < 100 := by
    have hle := Instant.day_le_of_isReal t.isReal_date
    omega
  have hhour : t.hour < 100 := Nat.lt_trans t.hour_lt (by decide)
  have hminute : t.minute < 100 := Nat.lt_trans t.minute_lt (by decide)
  have hsecond : (clock t).1 < 100 := Nat.lt_of_le_of_lt (clock_bounds t).1 (by decide)
  have hfraction : fraction (fractionDigits (clock t).2 ++ ['Z']) = .ok ((clock t).2, ['Z']) :=
    fraction_fractionDigits (clock_bounds t).2 (by rintro c ⟨⟩; decide) (by rintro c ⟨⟩; decide)
  have hhead : ∀ c ∈ (fractionDigits (clock t).2 ++ ['Z']).head?, isDigit c = false := by
    unfold fractionDigits
    intro c hc
    repeat' split at hc
    all_goals
      cases hc
      decide
  have hread : lenientTimestamp (render t) = .ok (t, []) := by
    rw [render_eq, stem, Instant.dateDigits]
    simp only [List.append_assoc, List.cons_append]
    rw [lenientTimestamp, bind_of_ok (year_yearDigits _ (by rintro c ⟨⟩; decide)),
      bind_of_ok (blanks_of_head? (by rintro c ⟨⟩; decide)), bind_of_ok (symbol_of_accepts rfl _),
      bind_of_ok (number_padded hmonth (by rintro c ⟨⟩; decide)),
      bind_of_ok (blanks_of_head? (by rintro c ⟨⟩; decide)), bind_of_ok (symbol_of_accepts rfl _),
      bind_of_ok (number_padded hday (by rintro c ⟨⟩; decide)),
      bind_of_ok (symbol_of_accepts rfl _),
      bind_of_ok (number_padded hhour (by rintro c ⟨⟩; decide)),
      bind_of_ok (blanks_of_head? (by rintro c ⟨⟩; decide)), bind_of_ok (symbol_of_accepts rfl _),
      bind_of_ok (number_padded hminute (by rintro c ⟨⟩; decide)),
      bind_of_ok (blanks_of_head? (by rintro c ⟨⟩; decide)), bind_of_ok (symbol_of_accepts rfl _),
      bind_of_ok (number_padded hsecond hhead), bind_of_ok hfraction,
      bind_of_ok (blanks_of_head? (by rintro c ⟨⟩; decide))]
    have hzone : lenientOffset ['Z'] = .ok (0, []) := rfl
    rw [bind_of_ok hzone, bind_of_ok (blanks_of_head? (by rintro c ⟨⟩)), bind_of_ok (get_eq _),
      bind_of_ok (require_of_true List.isEmpty_nil _ _), assemble?_parts]
    rfl
  rw [parseLenient?, hread]

end Time.Rfc3339
end PaperSearch
