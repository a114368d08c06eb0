import PaperSearch.Proofs.Text.Cut
import PaperSearch.Proofs.Time.Wire
import PaperSearch.Time.Rfc3339

/-!
# Timestamps read back

What is written for an instant of the years 0 to 9999 is read back as it, leap seconds and
fractions included: `parse_render`, and `parse_stem` for any way to write the offset of UTC.

A timestamp is read in parts from left to right. `timestamp_written` says what is made of parts
that are written as they should be, whatever the separator, the fraction and the offset; the parts
of an instant in UTC make the instant again (`assemble?_parts`).
-/

namespace PaperSearch

/-! ## Digits in fixed places -/

namespace Text

theorem length_padded (places n : Nat) : (padded places n).length = places := by
  induction places generalizing n with
  | zero => rfl
  | succ places ih => rw [padded, List.length_append, ih, List.length_singleton]

/-- The last digits of a number are read as what is left of it. -/
theorem naturalFrom?_padded (places n : Nat) :
    naturalFrom? 0 (padded places n) = some (n % Nat.pow 10 places) := by
  induction places generalizing n with
  | zero =>
    show some 0 = some (n % 1)
    rw [Nat.mod_one]
  | succ places ih =>
    rw [padded, naturalFrom?_append, ih, Option.bind_some, naturalFrom?, isDigit_digitChar,
      digitValue_digitChar]
    show some (10 * (n / 10 % Nat.pow 10 places) + n % 10) = some (n % (Nat.pow 10 places * 10))
    rw [Nat.mul_comm (Nat.pow 10 places), Nat.mod_mul, Nat.add_comm]

end Text

namespace Time.Rfc3339

open Text

/-! ## Readers -/

section Readers

variable {α β : Type} {s rest : List Char}

/-- A reader goes on with what is left by the one before it. -/
theorem bind_of_ok {x : Reader α} {f : α → Reader β} {a : α} (h : x s = .ok (a, rest)) :
    (x >>= f) s = f a rest := by
  simp only [bind, StateT.bind, h, Except.bind]

theorem digit_digitChar (n : Nat) (rest : List Char) :
    digit (digitChar n :: rest) = .ok (n % 10, rest) := by
  simp [digit]

theorem twoDigits_padded (n : Nat) (rest : List Char) :
    twoDigits (padded 2 n ++ rest) = .ok (n % 100, rest) := by
  have hpadded : padded 2 n ++ rest = digitChar (n / 10) :: digitChar n :: rest := by
    simp [padded]
  have hvalue : 10 * (n / 10 % 10) + n % 10 = n % 100 := by omega
  rw [hpadded, twoDigits, bind_of_ok (digit_digitChar _ _), bind_of_ok (digit_digitChar _ _),
    ← hvalue]
  rfl

theorem symbol_of_accepts {accepts : Char → Bool} {c : Char} (h : accepts c = true)
    (rest : List Char) : symbol accepts (c :: rest) = .ok ((), rest) :=
  if_pos h

theorem require_of_true {condition : Bool} (h : condition = true) (fault : Fault)
    (s : List Char) : require condition fault s = .ok ((), s) := by
  rw [require, if_pos h]
  rfl

theorem get_eq (s : List Char) : (get : Reader (List Char)) s = .ok (s, s) := rfl

/-! ## Fractions -/

theorem fraction_of_head? (h : ∀ c ∈ s.head?, c ≠ '.') : fraction s = .ok (0, s) := by
  unfold fraction
  split
  · exact absurd rfl (h '.' rfl)
  · rfl

theorem fraction_point {digits : List Char} (hne : digits ≠ [])
    (hdigits : ∀ c ∈ digits, isDigit c = true) (hrest : ∀ c ∈ rest.head?, isDigit c = false) :
    fraction ('.' :: (digits ++ rest)) = .ok (fractionNanos digits, rest) := by
  have htake := takeWhile_append_of_forall hdigits hrest
  have hdrop := dropWhile_append_of_forall hdigits hrest
  cases digits with
  | nil => exact absurd rfl hne
  | cons c digits =>
    rw [List.cons_append] at htake hdrop ⊢
    simp only [fraction, hdigits c List.mem_cons_self, if_true, htake, hdrop]

theorem fractionNanos_padded {places : Nat} (h : places ≤ 9) (n : Nat) :
    fractionNanos (padded places n) = n % Nat.pow 10 places * Nat.pow 10 (9 - places) := by
  have htake : (padded places n).take 9 = padded places n :=
    List.take_of_length_le (by rw [length_padded]; exact h)
  rw [fractionNanos, htake, naturalFrom?_padded, length_padded]
  rfl

theorem fraction_padded {places : Nat} (hpos : 0 < places) (h : places ≤ 9) (n : Nat)
    (hrest : ∀ c ∈ rest.head?, isDigit c = false) :
    fraction ('.' :: (padded places n ++ rest)) =
      .ok (n % Nat.pow 10 places * Nat.pow 10 (9 - places), rest) := by
  have hne : padded places n ≠ [] := by
    rw [← List.length_pos_iff, length_padded]
    exact hpos
  rw [fraction_point hne (fun c hc => isDigit_of_mem_padded hc) hrest, fractionNanos_padded h]

theorem fraction_fractionDigits {nanos : Nat} (h : nanos < 1000000000)
    (hpoint : ∀ c ∈ rest.head?, c ≠ '.') (hdigit : ∀ c ∈ rest.head?, isDigit c = false) :
    fraction (fractionDigits nanos ++ rest) = .ok (nanos, rest) := by
  have hread : ∀ places n, 0 < places → places ≤ 9 →
      n % Nat.pow 10 places * Nat.pow 10 (9 - places) = nanos →
      fraction ('.' :: padded places n ++ rest) = .ok (nanos, rest) := by
    intro places n hpos hle hvalue
    rw [List.cons_append, fraction_padded hpos hle n hdigit, hvalue]
  unfold fractionDigits
  split
  · rename_i hzero
    rw [List.nil_append, fraction_of_head? hpoint, hzero]
  · split
    · refine hread 3 _ (by decide) (by decide) ?_
      show nanos / 1000000 % 1000 * 1000000 = nanos
      omega
    · split
      · refine hread 6 _ (by decide) (by decide) ?_
        show nanos / 1000 % 1000000 * 1000 = nanos
        omega
      · refine hread 9 _ (by decide) (by decide) ?_
        show nanos % 1000000000 * 1 = nanos
        omega

end Readers

/-! ## Whole timestamps -/

theorem padded_four (n : Nat) : padded 4 n = padded 2 (n / 100) ++ padded 2 n := by
  simp [padded, Nat.div_div_eq_div_mul]

/-- A timestamp is read in its parts. What is left after the seconds holds the fraction and the
offset. -/
theorem timestamp_written {year month day hour minute second nanos : Nat} {east : Int}
    {separator : Char} {tail zone : List Char} (hyear : year < 10000)
    (hdate : Date.isReal ⟨year, month, day⟩ = true)
    (hseparator : (separator == 'T' || separator == 't' || separator == ' ') = true)
    (hclock : (hour < 24 && minute < 60 && second ≤ 60) = true)
    (hfraction : fraction tail = .ok (nanos, zone))
    (hzone : offset (symbol (· == ':')) zone = .ok (east, [])) :
    timestamp (padded 4 year ++ '-' :: padded 2 month ++ '-' :: padded 2 day ++
      separator :: padded 2 hour ++ ':' :: padded 2 minute ++ ':' :: padded 2 second ++ tail) =
      match assemble? ⟨year, month, day⟩ hour minute second nanos east with
      | some t => .ok (t, [])
      | none => .error .outOfRange := by
  have hcentury : 100 * (year / 100 % 100) + year % 100 = year := by omega
  have hmonth : month % 100 = month := by
    have hle : month ≤ 12 := Instant.month_le_of_isReal hdate
    exact Nat.mod_eq_of_lt (by omega)
  have hday : day % 100 = day := by
    have hle : day ≤ 31 := Instant.day_le_of_isReal hdate
    exact Nat.mod_eq_of_lt (by omega)
  have hbounds : (hour < 24 ∧ minute < 60) ∧ second ≤ 60 := by
    simpa only [Bool.and_eq_true, decide_eq_true_eq] using hclock
  have hhour : hour % 100 = hour := Nat.mod_eq_of_lt (by omega)
  have hminute : minute % 100 = minute := Nat.mod_eq_of_lt (by omega)
  have hsecond : second % 100 = second := Nat.mod_eq_of_lt (by omega)
  simp only [padded_four, List.append_assoc, List.cons_append]
  rw [timestamp, bind_of_ok (twoDigits_padded _ _), bind_of_ok (twoDigits_padded _ _),
    bind_of_ok (symbol_of_accepts rfl _), bind_of_ok (twoDigits_padded _ _),
    bind_of_ok (symbol_of_accepts rfl _), bind_of_ok (twoDigits_padded _ _)]
  rw [hcentury, hmonth, hday, bind_of_ok (require_of_true hdate _ _),
    bind_of_ok (symbol_of_accepts hseparator _), bind_of_ok (twoDigits_padded _ _),
    bind_of_ok (symbol_of_accepts rfl _), bind_of_ok (twoDigits_padded _ _),
    bind_of_ok (symbol_of_accepts rfl _), bind_of_ok (twoDigits_padded _ _),
    bind_of_ok hfraction, hhour, hminute, hsecond, bind_of_ok (require_of_true hclock _ _),
    bind_of_ok hzone, bind_of_ok (get_eq _), bind_of_ok (require_of_true List.isEmpty_nil _ _)]
  cases assemble? ⟨year, month, day⟩ hour minute second nanos east with
  | none => rfl
  | some t => rfl

/-! ## Instants -/

/-- An instant is its date and its time of day. -/
theorem seconds_eq (t : Instant) :
    86400 * t.date.dayNumber + ((3600 * t.hour + 60 * t.minute + t.second : Nat) : Int) =
      t.seconds := by
  rw [Instant.date, Date.dayNumber_ofDayNumber]
  simp only [Instant.hour, Instant.minute, Instant.second, Instant.secondOfDay]
  omega

/-- The second that is written, and the nanoseconds after it. A leap second comes after the
59th. -/
def clock (t : Instant) : Nat × Nat :=
  if 1000000000 ≤ t.nanos then (t.second + 1, t.nanos - 1000000000) else (t.second, t.nanos)

/-- What is written for an instant in UTC, without the zone. -/
def stem (t : Instant) : List Char :=
  t.dateDigits ++ 'T' :: padded 2 t.hour ++ ':' :: padded 2 t.minute ++
    ':' :: padded 2 (clock t).1 ++ fractionDigits (clock t).2

theorem render_eq (t : Instant) : render t = stem t ++ ['Z'] := by
  unfold stem clock
  split <;> simp [render, *]

theorem stem_eq {t : Instant} (hfirst : 0 ≤ t.date.year) (hlast : t.date.year ≤ 9999) :
    stem t = padded 4 t.date.year.toNat ++ '-' :: padded 2 t.date.month ++
      '-' :: padded 2 t.date.day ++ 'T' :: padded 2 t.hour ++ ':' :: padded 2 t.minute ++
      ':' :: padded 2 (clock t).1 ++ fractionDigits (clock t).2 := by
  rw [stem, Instant.dateDigits, Instant.yearDigits, if_pos ⟨hfirst, hlast⟩]

theorem isBlank_of_mem_stem {t : Instant} (hfirst : 0 ≤ t.date.year) (hlast : t.date.year ≤ 9999)
    {c : Char} (h : c ∈ stem t) : isBlank c = false := by
  have hmarks : ∀ d ∈ ['-', 'T', ':', '.'], isBlank d = false := by decide
  have hpadded : ∀ {places n}, c ∈ padded places n → isBlank c = false := fun hmem =>
    isBlank_of_isDigit (isDigit_of_mem_padded hmem)
  have hfraction : c ∈ fractionDigits (clock t).2 → isBlank c = false := by
    have hpoint : ∀ {places n}, c ∈ '.' :: padded places n → isBlank c = false := fun hmem =>
      (List.mem_cons.mp hmem).elim (fun heq => heq ▸ rfl) hpadded
    unfold fractionDigits
    intro hmem
    repeat' split at hmem
    · cases hmem
    all_goals exact hpoint hmem
  rw [stem_eq hfirst hlast] at h
  simp only [List.mem_append, List.mem_cons] at h
  grind

theorem clock_bounds (t : Instant) : (clock t).1 ≤ 60 ∧ (clock t).2 < 1000000000 := by
  have hnanos := t.nanos_lt
  have hsecond : t.second < 60 := Nat.mod_lt _ (by decide)
  unfold clock
  split
  · exact ⟨hsecond, by dsimp only; omega⟩
  · exact ⟨Nat.le_of_lt hsecond, by dsimp only; omega⟩

/-- The parts of an instant make the instant, when the date and the time of day are as far from
those in UTC as the offset says. -/
theorem assemble?_local {t : Instant} {date : Date} {hour minute : Nat} {east : Int}
    (hdate : date.isReal = true) (hhour : hour < 24) (hminute : minute < 60)
    (heast : east.natAbs < 86400)
    (hsum : 86400 * date.dayNumber + ((3600 * hour + 60 * minute + t.second : Nat) : Int) =
      t.seconds + east)
    (hfirst : firstSecond ≤ t.seconds + east) (hlast : t.seconds + east ≤ lastSecond) :
    assemble? date hour minute (clock t).1 (clock t).2 east = some t := by
  have hcondition : (date.isReal && hour < 24 && minute < 60 && (clock t).1 ≤ 60 &&
      east.natAbs < 86400) = true := by
    simp [hdate, hhour, hminute, (clock_bounds t).1, heast]
  have hparts : (if ((clock t).1 == 60) = true then 59 else (clock t).1) = t.second ∧
      (clock t).2 + (if ((clock t).1 == 60) = true then 1000000000 else 0) = t.nanos := by
    have hsecond : t.second < 60 := Nat.mod_lt _ (by decide)
    unfold clock
    split
    · rename_i hleap
      have hend : t.second = 59 := by
        have := t.leap_at_minute_end hleap
        simp only [Instant.second, Instant.secondOfDay]
        omega
      rw [hend]
      exact ⟨rfl, Nat.sub_add_cancel hleap⟩
    · have hne : (t.second == 60) = false := by simpa using Nat.ne_of_lt hsecond
      simp [hne]
  simp only [assemble?, hcondition, if_true, hparts, hsum]
  rw [if_pos ⟨hfirst, hlast⟩, Int.add_sub_cancel, Instant.ofParts?_self]

/-- The parts of an instant in UTC make the instant. -/
theorem assemble?_parts (t : Instant) :
    assemble? t.date t.hour t.minute (clock t).1 (clock t).2 0 = some t := by
  refine assemble?_local t.isReal_date t.hour_lt t.minute_lt (by decide) ?_ ?_ ?_
  · rw [seconds_eq, Int.add_zero]
  · rw [Int.add_zero]
    exact t.first_le
  · rw [Int.add_zero]
    exact t.le_last

/-- **Timestamps are read back**, by any name of the zone. -/
theorem parse_stem {t : Instant} (hfirst : 0 ≤ t.date.year) (hlast : t.date.year ≤ 9999)
    {zone : List Char} (hzone : offset (symbol (· == ':')) zone = .ok (0, []))
    (hhead : ∀ c ∈ zone.head?, c ≠ '.' ∧ isDigit c = false) : parse (stem t ++ zone) = .ok t := by
  have hyear : (t.date.year.toNat : Int) = t.date.year := Int.toNat_of_nonneg hfirst
  have hdate : (⟨t.date.year.toNat, t.date.month, t.date.day⟩ : Date) = t.date := by
    rw [hyear]
  have hreal : Date.isReal ⟨t.date.year.toNat, t.date.month, t.date.day⟩ = true :=
    hdate ▸ t.isReal_date
  have hclock : (t.hour < 24 && t.minute < 60 && (clock t).1 ≤ 60) = true := by
    simp [t.hour_lt, t.minute_lt, (clock_bounds t).1]
  have hfraction : fraction (fractionDigits (clock t).2 ++ zone) = .ok ((clock t).2, zone) :=
    fraction_fractionDigits (clock_bounds t).2 (fun c hc => (hhead c hc).1)
      fun c hc => (hhead c hc).2
  have hread := timestamp_written (by omega) hreal (rfl : ('T' == 'T' || _ || _) = true) hclock
    hfraction hzone
  have hsize : ¬ byteLength (stem t ++ zone) < 19 := by
    have hlength := length_le_byteLength (stem t ++ zone)
    have hstem : 19 ≤ (stem t).length := by
      rw [stem_eq hfirst hlast]
      simp only [List.length_append, List.length_cons, length_padded]
      omega
    rw [List.length_append] at hlength
    omega
  rw [parse, if_neg hsize, stem_eq hfirst hlast, List.append_assoc, hread, hdate, assemble?_parts]
  rfl

theorem parse_render {t : Instant} (hfirst : 0 ≤ t.date.year) (hlast : t.date.year ≤ 9999) :
    parse (render t) = .ok t := by
  rw [render_eq]
  exact parse_stem hfirst hlast rfl (by rintro c ⟨⟩; decide)

end Time.Rfc3339
end PaperSearch
