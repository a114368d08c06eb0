import Mathlib.Data.Int.Init
import Mathlib.Data.Prod.Lex
import PaperSearch.Proofs.Time.Wire

/-!
# The order of instants and dates

Instants are ordered by their seconds and then by their nanoseconds, so that a leap second lies
between the 59th second it follows and the next minute. Dates that exist are ordered as their days
are counted: the calendar is a run of months (`Date.monthStart`), each of which ends where the next
one begins (`Date.monthStart_succ`).

* `Date.dayNumber_lt`: a date that is written with a smaller number is an earlier day.
* `Date.ofDayNumber_dayNumber`: the count of days tells the dates that exist apart.
* `Instant.lt_iff`: the order of instants.
-/

namespace PaperSearch.Time

/-! ## Dates -/

namespace Date

/-- The months that begin before the date, counted from March of the year 0. -/
def monthIndex (d : Date) : Int :=
  12 * d.year + d.month - 3

/-- The days from the first of March of the year 0 to the start of a month. -/
def monthStart (q : Int) : Int :=
  365 * (q / 12) + q / 12 / 4 - q / 12 / 100 + q / 12 / 400 + (153 * (q % 12) + 2) / 5

/-- Year, month and day as one number. -/
def number (d : Date) : Int :=
  10000 * d.year + 100 * d.month + d.day

theorem bounds_of_isReal {d : Date} (h : d.isReal = true) :
    1 ≤ d.month ∧ d.month ≤ 12 ∧ 1 ≤ d.day ∧ d.day ≤ 31 := by
  have hmonth := Instant.month_le_of_isReal h
  have hday := Instant.day_le_of_isReal h
  simp only [isReal, Bool.and_eq_true, decide_eq_true_eq] at h
  have hzero : d.month ≠ 0 := by
    intro hzero
    have hnone : d.day ≤ daysInMonth d.year 0 := hzero ▸ h.2
    exact absurd (h.1.trans hnone) (Nat.not_succ_le_zero 0)
  exact ⟨Nat.pos_of_ne_zero hzero, hmonth, h.1, hday⟩

theorem dayNumber_eq {d : Date} (h1 : 1 ≤ d.month) (h12 : d.month ≤ 12) :
    d.dayNumber = monthStart d.monthIndex + d.day - 719469 := by
  have hmonth : d.monthIndex % 12 = ((d.month : Int) + 9) % 12 := by
    simp only [monthIndex]
    omega
  have hyear : d.monthIndex / 12 = if d.month ≤ 2 then d.year - 1 else d.year := by
    simp only [monthIndex]
    split <;> omega
  rw [dayNumber, monthStart, hmonth, hyear]

/-- A month of a year that begins with March. -/
theorem monthStart_add (y : Int) {m : Int} (h0 : 0 ≤ m) (h11 : m ≤ 11) :
    monthStart (12 * y + m) = 365 * y + y / 4 - y / 100 + y / 400 + (153 * m + 2) / 5 := by
  have hyear : (12 * y + m) / 12 = y := by omega
  have hmonth : (12 * y + m) % 12 = m := by omega
  rw [monthStart, hyear, hmonth]

/-- A February ends with its year from March, and has a day more when the year after it is a
leap year. -/
theorem monthStart_february (y : Int) :
    monthStart (12 * (y + 1)) = monthStart (12 * y + 11) + daysInMonth (y + 1) 2 := by
  have hdays : (daysInMonth (y + 1) 2 : Int) = if isLeapYear (y + 1) then 29 else 28 := by
    show ((if isLeapYear (y + 1) then 29 else 28 : Nat) : Int) = _
    split <;> rfl
  rw [← Int.add_zero (12 * (y + 1)), monthStart_add (y + 1) (by omega) (by omega),
    monthStart_add y (by omega) (by omega), hdays]
  simp only [isLeapYear, Bool.and_eq_true, beq_iff_eq, bne_iff_ne, Bool.or_eq_true]
  split <;> omega

/-- A month ends where the next one begins. -/
theorem monthStart_succ {d : Date} (h1 : 1 ≤ d.month) (h12 : d.month ≤ 12) :
    monthStart (d.monthIndex + 1) = monthStart d.monthIndex + daysInMonth d.year d.month := by
  obtain ⟨y, month, day⟩ := d
  simp only [monthIndex] at *
  by_cases hmarch : 3 ≤ month
  · obtain ⟨m, rfl⟩ : ∃ m, month = m + 3 := ⟨month - 3, by omega⟩
    have hindex : 12 * y + ((m + 3 : Nat) : Int) - 3 = 12 * y + m := by omega
    have hdays : (daysInMonth y (m + 3) : Int) =
        (153 * ((m : Int) + 1) + 2) / 5 - (153 * m + 2) / 5 :=
      daysInMonth_fromMarch y (Int.natCast_nonneg m) (by omega)
    rw [hindex, Int.add_assoc, monthStart_add y (by omega) (by omega),
      monthStart_add y (by omega) (by omega), hdays]
    omega
  · obtain ⟨z, rfl⟩ : ∃ z, y = z + 1 := ⟨y - 1, by omega⟩
    obtain rfl | rfl : month = 1 ∨ month = 2 := by omega
    · have hindex : 12 * (z + 1) + ((1 : Nat) : Int) - 3 = 12 * z + 10 := by omega
      have hdays : (daysInMonth (z + 1) 1 : Int) = 31 := rfl
      rw [hindex, Int.add_assoc, monthStart_add z (by omega) (by omega),
        monthStart_add z (by omega) (by omega), hdays]
      omega
    · have hindex : 12 * (z + 1) + ((2 : Nat) : Int) - 3 = 12 * z + 11 := by omega
      have hnext : 12 * z + 11 + 1 = 12 * (z + 1) := by omega
      rw [hindex, hnext]
      exact monthStart_february z

theorem monthStart_le {q r : Int} (h : q ≤ r) : monthStart q ≤ monthStart r := by
  induction r, h using Int.leInduction with
  | base => exact Int.le_refl _
  | succ r _ ih =>
    refine Int.le_trans ih ?_
    simp only [monthStart]
    omega

/-- **The order of dates** is the order of the numbers that are written for them. -/
theorem dayNumber_lt {d e : Date} (hd : d.isReal = true) (he : e.isReal = true)
    (h : d.number < e.number) : d.dayNumber < e.dayNumber := by
  obtain ⟨hd1, hd12, hday1, hday31⟩ := bounds_of_isReal hd
  obtain ⟨he1, he12, heday1, heday31⟩ := bounds_of_isReal he
  rw [dayNumber_eq hd1 hd12, dayNumber_eq he1 he12]
  simp only [number] at h
  have hle : d.monthIndex ≤ e.monthIndex := by
    simp only [monthIndex]
    omega
  rcases Int.lt_or_eq_of_le hle with hlt | heq
  · -- the day lies in its month, and that month ends before the other date
    have hmonth := monthStart_le (Int.add_one_le_of_lt hlt)
    have hdays : d.day ≤ daysInMonth d.year d.month := by
      simp only [isReal, Bool.and_eq_true, decide_eq_true_eq] at hd
      exact hd.2
    rw [monthStart_succ hd1 hd12] at hmonth
    omega
  · have hday : d.day < e.day := by
      simp only [monthIndex] at heq
      omega
    rw [heq]
    omega

/-- The number that is written for a date that exists tells which one it is. -/
theorem eq_of_number {d e : Date} (hd : d.isReal = true) (he : e.isReal = true)
    (h : d.number = e.number) : d = e := by
  obtain ⟨-, hmonth, -, hday⟩ := bounds_of_isReal hd
  obtain ⟨-, hmonth', -, hday'⟩ := bounds_of_isReal he
  obtain ⟨y, m, k⟩ := d
  obtain ⟨y', m', k'⟩ := e
  simp only [number] at h
  obtain ⟨rfl, rfl, rfl⟩ : y = y' ∧ m = m' ∧ k = k' := by
    dsimp only at *
    omega
  rfl

theorem dayNumber_le {d e : Date} (hd : d.isReal = true) (he : e.isReal = true)
    (h : d.number ≤ e.number) : d.dayNumber ≤ e.dayNumber := by
  rcases Int.lt_or_eq_of_le h with hlt | heq
  · exact Int.le_of_lt (dayNumber_lt hd he hlt)
  · rw [eq_of_number hd he heq]

theorem dayNumber_lt_iff {d e : Date} (hd : d.isReal = true) (he : e.isReal = true) :
    d.dayNumber < e.dayNumber ↔ d.number < e.number := by
  refine ⟨fun h => ?_, dayNumber_lt hd he⟩
  by_contra hnot
  exact absurd (dayNumber_le he hd (Int.not_lt.mp hnot)) (Int.not_le.mpr h)

/-- The days of the years 0 to 9999. -/
theorem dayNumber_bounds {d : Date} (h : d.isReal = true) (hfirst : 0 ≤ d.year)
    (hlast : d.year ≤ 9999) : -719528 ≤ d.dayNumber ∧ d.dayNumber ≤ 2932896 := by
  obtain ⟨hmonth, hmonth', hday, hday'⟩ := bounds_of_isReal h
  have hlow : dayNumber ⟨0, 1, 1⟩ ≤ d.dayNumber :=
    dayNumber_le (by decide) h (by simp only [number]; omega)
  have hhigh : d.dayNumber ≤ dayNumber ⟨9999, 12, 31⟩ :=
    dayNumber_le h (by decide) (by simp only [number]; omega)
  exact ⟨hlow, hhigh⟩

/-- The count of days tells the dates that exist apart. -/
theorem ofDayNumber_dayNumber {d : Date} (h : d.isReal = true) : ofDayNumber d.dayNumber = d := by
  have hreal := isReal_ofDayNumber d.dayNumber
  have hsame := dayNumber_ofDayNumber d.dayNumber
  refine eq_of_number hreal h (Int.le_antisymm ?_ ?_)
  · exact Int.not_lt.mp fun hlt => absurd (dayNumber_lt h hreal hlt) (by omega)
  · exact Int.not_lt.mp fun hlt => absurd (dayNumber_lt hreal h hlt) (by omega)

end Date

/-! ## Instants -/

namespace Instant

theorem eq_of_seconds_of_nanos {t u : Instant} (hs : t.seconds = u.seconds)
    (hn : t.nanos = u.nanos) : t = u := by
  cases t
  cases u
  cases hs
  cases hn
  rfl

instance : LinearOrder Instant :=
  LinearOrder.lift' (fun t => toLex (t.seconds, t.nanos)) fun _ _ h =>
    eq_of_seconds_of_nanos (congrArg Prod.fst h) (congrArg Prod.snd h)

/-- Instants are ordered by seconds and then by nanoseconds. -/
theorem lt_iff {t u : Instant} :
    t < u ↔ t.seconds < u.seconds ∨ t.seconds = u.seconds ∧ t.nanos < u.nanos :=
  Prod.Lex.toLex_lt_toLex

theorem le_iff {t u : Instant} :
    t ≤ u ↔ t.seconds < u.seconds ∨ t.seconds = u.seconds ∧ t.nanos ≤ u.nanos :=
  Prod.Lex.toLex_le_toLex

theorem seconds_le_of_le {t u : Instant} (h : t ≤ u) : t.seconds ≤ u.seconds := by
  rcases le_iff.mp h with h | h <;> omega

/-- The instant of a date and a time of day that exist has that date and that time. -/
theorem date_ofDate {t : Instant} {date : Date} {hour minute second : Nat}
    (hdate : date.isReal = true) (hhour : hour < 24) (hminute : minute < 60)
    (hsecond : second < 60)
    (h : t.seconds = 86400 * date.dayNumber + (3600 * hour + 60 * minute + second : Nat)) :
    t.date = date ∧ t.hour = hour ∧ t.minute = minute ∧ t.second = second := by
  have hday : t.seconds / 86400 = date.dayNumber := by omega
  have hrest : (t.seconds % 86400).toNat = 3600 * hour + 60 * minute + second := by omega
  refine ⟨?_, ?_, ?_, ?_⟩
  · rw [Instant.date, hday, Date.ofDayNumber_dayNumber hdate]
  all_goals
    simp only [Instant.hour, Instant.minute, Instant.second, secondOfDay, hrest]
    omega

end Instant
end PaperSearch.Time
