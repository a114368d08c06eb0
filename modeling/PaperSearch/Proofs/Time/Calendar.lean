import PaperSearch.Time.Calendar

/-!
# Days and dates

The date of a day exists, and it lies at the place in the count of days that it was made from.
Both are read off one decomposition: a day of the 400-year cycle as a century, four years of it,
a year of those and a day of that year, with years from March (`CycleDay`).

* `dayNumber_ofDayNumber`: the count of days is recovered from the date.
* `isReal_ofDayNumber`: the date of a day exists. The leap day is the last of its year from March,
  so only February asks how long the year is.
-/

namespace PaperSearch.Time.Date

/-- A day of a 400-year cycle lies in a century, in four years of it and in a year of those. Only
the last of four years has a day 365, and the last of a century only in the last century. -/
structure CycleDay (day century four year dayOfYear : Int) : Prop where
  century_bounds : 0 ≤ century ∧ century ≤ 3
  four_bounds : 0 ≤ four ∧ four ≤ 24
  year_bounds : 0 ≤ year ∧ year ≤ 3
  day_bounds : 0 ≤ dayOfYear ∧ dayOfYear ≤ 365
  leap : dayOfYear = 365 → year = 3 ∧ (four = 24 → century = 3)
  sum : day = 36524 * century + 1461 * four + 365 * year + dayOfYear

theorem exists_cycleDay (n : Int) : ∃ q t u k, CycleDay (n % 146097) q t u k := by
  have h0 : 0 ≤ n % 146097 := Int.emod_nonneg n (by decide)
  have h1 : n % 146097 < 146097 := Int.emod_lt_of_pos n (by decide)
  generalize n % 146097 = day at h0 h1
  by_cases hlast : day = 146096
  · exact ⟨3, 24, 3, 365, by omega, by omega, by omega, by omega, by omega, by omega⟩
  · obtain ⟨q, r, hq, hr⟩ : ∃ q r, (0 ≤ q ∧ q ≤ 3 ∧ 0 ≤ r ∧ r < 36524) ∧ day = 36524 * q + r :=
      ⟨day / 36524, day % 36524, by omega, by omega⟩
    obtain ⟨t, s, ht, hs⟩ : ∃ t s, (0 ≤ t ∧ t ≤ 24 ∧ 0 ≤ s ∧ s < 1461) ∧ r = 1461 * t + s :=
      ⟨r / 1461, r % 1461, by omega, by omega⟩
    by_cases hleap : s = 1460
    · exact ⟨q, t, 3, 365, by omega, by omega, by omega, by omega, by omega, by omega⟩
    · exact ⟨q, t, s / 365, s % 365, by omega, by omega, by omega, by omega, by omega, by omega⟩

namespace CycleDay

variable {day q t u k : Int}

/-- The quotient that gives the year of the cycle: taking away one day for each leap day before
it leaves years of 365 days. -/
theorem yearOfCycle (h : CycleDay day q t u k) :
    (day - day / 1460 + day / 36524 - day / 146096) / 365 = 100 * q + 4 * t + u := by
  obtain ⟨hq, ht, hu, hk, hl, hday⟩ := h
  have hfour : day / 1460 = 25 * q + t ∨ day / 1460 = 25 * q + t + 1 ∧ u = 3 ∧ 269 ≤ k := by
    omega
  have hcentury : day / 36524 = q ∧ day / 146096 = 0 ∨
      day / 36524 = 4 ∧ day / 146096 = 1 ∧ q = 3 := by
    by_cases hlast : day = 146096 <;> omega
  omega

theorem dayOfYear (h : CycleDay day q t u k) :
    day - (365 * (100 * q + 4 * t + u) + (100 * q + 4 * t + u) / 4 -
      (100 * q + 4 * t + u) / 100) = k := by
  obtain ⟨hq, ht, hu, hk, hl, rfl⟩ := h
  omega

/-- A day 365 lies before the March of a leap year, in every cycle. -/
theorem isLeapYear (h : CycleDay day q t u 365) (c : Int) :
    isLeapYear (100 * q + 4 * t + u + 400 * c + 1) = true := by
  obtain ⟨hq, ht, hu, hk, hl, rfl⟩ := h
  simp only [Time.isLeapYear, Bool.and_eq_true, beq_iff_eq, bne_iff_ne, Bool.or_eq_true]
  omega

end CycleDay

/-- The date of a day whose place in its cycle is known. -/
theorem ofDayNumber_eq {n q t u k : Int} (h : CycleDay ((n + 719468) % 146097) q t u k) :
    ofDayNumber n =
      let year := 100 * q + 4 * t + u + 400 * ((n + 719468) / 146097)
      let month := (5 * k + 2) / 153
      let day := (k - (153 * month + 2) / 5 + 1).toNat
      if month < 10 then ⟨year, (month + 3).toNat, day⟩
      else ⟨year + 1, (month - 9).toNat, day⟩ := by
  simp only [ofDayNumber, h.yearOfCycle, h.dayOfYear]

theorem dayNumber_ofDayNumber (n : Int) : (ofDayNumber n).dayNumber = n := by
  obtain ⟨q, t, u, k, h⟩ := exists_cycleDay (n + 719468)
  rw [ofDayNumber_eq h]
  obtain ⟨hq, ht, hu, hk, -, hsum⟩ := h
  have hn : n + 719468 =
      146097 * ((n + 719468) / 146097) + (36524 * q + 1461 * t + 365 * u + k) := by
    rw [← hsum, Int.mul_ediv_add_emod]
  generalize (n + 719468) / 146097 = c at hn ⊢
  have hm : 0 ≤ (5 * k + 2) / 153 ∧ (5 * k + 2) / 153 ≤ 11 := by omega
  have hd : 0 ≤ k - (153 * ((5 * k + 2) / 153) + 2) / 5 := by omega
  generalize (5 * k + 2) / 153 = m at hm hd ⊢
  have hy : (100 * q + 4 * t + u + 400 * c) / 4 = 25 * q + t + 100 * c ∧
      (100 * q + 4 * t + u + 400 * c) / 100 = q + 4 * c ∧
      (100 * q + 4 * t + u + 400 * c) / 400 = c := by omega
  simp only [dayNumber]
  split
  · rename_i hlow
    have h2 : ¬ (m + 3).toNat ≤ 2 := by omega
    have h9 : ((m + 3).toNat + 9 : Int) % 12 = m := by omega
    simp only [h2, if_false, h9, hy]
    omega
  · rename_i hhigh
    have h2 : (m - 9).toNat ≤ 2 := by omega
    have h9 : ((m - 9).toNat + 9 : Int) % 12 = m := by omega
    simp only [h2, if_true, h9, Int.add_sub_cancel, hy]
    omega

/-- From March to December, counted from zero, a month ends where the next one begins. -/
theorem daysInMonth_fromMarch (year : Int) {m : Int} (h0 : 0 ≤ m) (h9 : m ≤ 9) :
    (daysInMonth year (m + 3).toNat : Int) = (153 * (m + 1) + 2) / 5 - (153 * m + 2) / 5 := by
  obtain rfl | rfl | rfl | rfl | rfl | rfl | rfl | rfl | rfl | rfl :
      m = 0 ∨ m = 1 ∨ m = 2 ∨ m = 3 ∨ m = 4 ∨ m = 5 ∨ m = 6 ∨ m = 7 ∨ m = 8 ∨ m = 9 := by omega
  all_goals rfl

/-- The days of a February; the last is there when the year is long. -/
theorem le_daysInMonth_february {year : Int} {day : Nat} (h : day ≤ 29)
    (hleap : day = 29 → isLeapYear year = true) : day ≤ daysInMonth year 2 := by
  show day ≤ if isLeapYear year then 29 else 28
  split
  · exact h
  · rename_i hshort
    have hne : day ≠ 29 := fun hday => hshort (hleap hday)
    omega

theorem isReal_ofDayNumber (n : Int) : (ofDayNumber n).isReal = true := by
  obtain ⟨q, t, u, k, h⟩ := exists_cycleDay (n + 719468)
  have hleap : k = 365 →
      isLeapYear (100 * q + 4 * t + u + 400 * ((n + 719468) / 146097) + 1) = true := by
    rintro rfl
    exact h.isLeapYear _
  have hk := h.day_bounds
  rw [ofDayNumber_eq h]
  -- the month from March is known by the days before it and before the next
  have hm : 0 ≤ (5 * k + 2) / 153 ∧ (5 * k + 2) / 153 ≤ 11 := by omega
  have hd : 153 * ((5 * k + 2) / 153) ≤ 5 * k + 2 ∧
      5 * k + 2 < 153 * ((5 * k + 2) / 153) + 153 := by omega
  generalize (5 * k + 2) / 153 = m at hm hd ⊢
  simp only [isReal, Bool.and_eq_true, decide_eq_true_eq]
  split
  · rename_i hlow
    have hdays := daysInMonth_fromMarch
      (100 * q + 4 * t + u + 400 * ((n + 719468) / 146097)) hm.1 (by omega)
    dsimp only
    omega
  · rename_i hhigh
    have hcases : m = 10 ∨ m = 11 := by omega
    dsimp only
    refine ⟨by omega, ?_⟩
    rcases hcases with rfl | rfl
    · show (k - 306 + 1).toNat ≤ 31
      omega
    · refine le_daysInMonth_february ?_ ?_
      · show (k - 337 + 1).toNat ≤ 29
        omega
      · intro hday
        have hday' : (k - 337 + 1).toNat = 29 := hday
        exact hleap (by omega)

end PaperSearch.Time.Date
