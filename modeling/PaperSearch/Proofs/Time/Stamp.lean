import Mathlib.Data.Char
import Mathlib.Data.List.Induction
import Mathlib.Data.List.Lex
import Mathlib.Order.Bounds.Basic
import PaperSearch.Proofs.Time.Lenient
import PaperSearch.Proofs.Time.Order

/-!
# Wire timestamps and the instants they stand for

`toWire` rounds an instant down to its minute and moves it into the years 0 to 9999; twelve digits
stand for what it gives. The digits are one number in twelve places (`wireDigits_eq`), so they are
ordered as these numbers are (`padded_lt_padded`) and the numbers as the instants
(`wireNumber_lt`).

* `rounds_toWire`: where an instant is moved.
* `strictMonoOn_wireDigits`: timestamps are ordered as the instants they stand for.
* `ofWireDigits?_eq_some_iff`: what is read is exactly what is written.
* `toWire_faithful`: all of it.
-/

namespace PaperSearch

/-! ## Digits in fixed places, compared -/

namespace Text

theorem append_lt_append {s t : List Char} (hlength : s.length = t.length) (h : s < t)
    (u v : List Char) : s ++ u < t ++ v := by
  induction s generalizing t with
  | nil =>
    rw [List.length_eq_zero_iff.mp hlength.symm] at h
    exact absurd h (List.not_lt_nil _)
  | cons c s ih =>
    cases t with
    | nil => exact absurd hlength (Nat.succ_ne_zero _)
    | cons d t =>
      rw [List.cons_lt_cons_iff] at h
      rw [List.cons_append, List.cons_append, List.cons_lt_cons_iff]
      exact h.imp_right fun h => ⟨h.1, ih (Nat.succ.inj hlength) h.2⟩

theorem digitChar_lt_digitChar {m n : Nat} (h : m % 10 < n % 10) : digitChar m < digitChar n := by
  show (digitChar m).toNat < (digitChar n).toNat
  rw [toNat_digitChar, toNat_digitChar]
  omega

/-- Numbers in equally many places are ordered as their digits. -/
theorem padded_lt_padded {places m n : Nat} (h : m < n) (hn : n < Nat.pow 10 places) :
    padded places m < padded places n := by
  induction places generalizing m n with
  | zero =>
    have hone : n < 1 := hn
    omega
  | succ places ih =>
    have hbound : n < Nat.pow 10 places * 10 := hn
    rw [padded, padded]
    rcases Nat.lt_or_eq_of_le (Nat.div_le_div_right (c := 10) (Nat.le_of_lt h)) with hlt | heq
    · refine append_lt_append ?_ (ih hlt (by omega)) _ _
      rw [length_padded, length_padded]
    · rw [heq]
      refine List.append_left_lt ?_
      rw [List.cons_lt_cons_iff]
      exact .inl (digitChar_lt_digitChar (by omega))

/-- Two more digits. -/
theorem padded_add_two (places m : Nat) {n : Nat} (h : n < 100) :
    padded (places + 2) (100 * m + n) = padded places m ++ padded 2 n := by
  have hhigh : (100 * m + n) / 10 / 10 = m := by omega
  have htens : digitChar ((100 * m + n) / 10) = digitChar (n / 10) := by
    rw [digitChar, digitChar]
    congr 2
    omega
  have hones : digitChar (100 * m + n) = digitChar n := by
    rw [digitChar, digitChar]
    congr 2
    omega
  simp [padded, hhigh, htens, hones]

theorem digitChar_of_isDigit {c : Char} (h : isDigit c = true) (n : Nat) :
    digitChar (10 * n + digitValue c) = c := by
  simp only [isDigit, Bool.and_eq_true, decide_eq_true_eq] at h
  have hvalue : 48 + (10 * n + digitValue c) % 10 = c.toNat := by
    simp only [digitValue]
    omega
  rw [digitChar, hvalue, Char.ofNat_toNat]

/-- The digits of a number that is read are those it is written with in as many places. -/
theorem padded_of_naturalFrom? {s : List Char} {n : Nat} (h : naturalFrom? 0 s = some n) :
    padded s.length n = s := by
  induction s using List.reverseRecOn generalizing n with
  | nil => rfl
  | append_singleton s c ih =>
    rw [naturalFrom?_append] at h
    obtain ⟨m, hm, h⟩ := Option.bind_eq_some_iff.mp h
    rw [naturalFrom?] at h
    split at h
    · rename_i hc
      have hn : 10 * m + digitValue c = n := Option.some.inj h
      have hvalue := digitValue_lt hc
      have hdiv : (10 * m + digitValue c) / 10 = m := by omega
      rw [List.length_append, List.length_singleton, padded, ← hn, hdiv, ih hm,
        digitChar_of_isDigit hc]
    · cases h

/-- A number that is read fits into the places it was read from. -/
theorem lt_of_natural? {s : List Char} {n : Nat} (h : natural? s = some n) :
    n < Nat.pow 10 s.length := by
  have hread := naturalFrom?_of_natural? h
  have hmod := naturalFrom?_padded s.length n
  rw [padded_of_naturalFrom? hread, hread, Option.some.injEq] at hmod
  rw [hmod]
  exact Nat.mod_lt _ (Nat.pow_pos (by decide))

end Text

namespace Time.Instant

open Text

/-! ## Rounding -/

/-- A whole minute. -/
structure IsMinute (t : Instant) : Prop where
  whole_minute : t.seconds % 60 = 0
  no_nanos : t.nanos = 0

/-- The whole minute of a date, an hour and a minute. -/
structure IsMinuteOf (t : Instant) (date : Date) (hour minute : Nat) : Prop where
  isMinute : t.IsMinute
  date_eq : t.date = date
  hour_eq : t.hour = hour
  minute_eq : t.minute = minute

/-- Where an instant is moved: down to a whole minute in the years 0 to 9999, and to the nearest
minute of them from outside. -/
structure Rounds (t w : Instant) : Prop where
  within : 0 ≤ t.date.year → t.date.year ≤ 9999 → IsGreatest {u | u.IsMinute ∧ u ≤ t} w
  before : t.date.year < 0 →
    t < w ∧ IsLeast {u | u.IsWire} w ∧ w.IsMinuteOf ⟨0, 1, 1⟩ 0 0
  after : 9999 < t.date.year →
    w < t ∧ IsGreatest {u | u.IsWire} w ∧ w.IsMinuteOf ⟨9999, 12, 31⟩ 23 59

theorem IsWire.isMinute {t : Instant} (h : t.IsWire) : t.IsMinute :=
  ⟨h.whole_minute, h.no_nanos⟩

theorem dayNumber_date (t : Instant) : t.date.dayNumber = t.seconds / 86400 :=
  Date.dayNumber_ofDayNumber _

/-- The years before the year 0 are the seconds before its first. -/
theorem year_lt_zero_iff (t : Instant) : t.date.year < 0 ↔ t.seconds < firstWire.seconds := by
  have hfirst : Date.isReal ⟨0, 1, 1⟩ = true := by decide
  have hnumber : t.date.number < Date.number ⟨0, 1, 1⟩ ↔ t.date.year < 0 := by
    have hbounds := Date.bounds_of_isReal t.isReal_date
    simp only [Date.number]
    omega
  have hday : Date.dayNumber ⟨0, 1, 1⟩ = -719528 := by decide
  have hseconds : firstWire.seconds = 86400 * -719528 := by decide
  rw [← hnumber, ← Date.dayNumber_lt_iff t.isReal_date hfirst, dayNumber_date, hday, hseconds]
  omega

/-- The years after the year 9999 are the seconds after its last minute. -/
theorem lt_year_iff (t : Instant) : 9999 < t.date.year ↔ lastWire.seconds + 60 ≤ t.seconds := by
  have hlast : Date.isReal ⟨9999, 12, 31⟩ = true := by decide
  have hnumber : Date.number ⟨9999, 12, 31⟩ < t.date.number ↔ 9999 < t.date.year := by
    have hbounds := Date.bounds_of_isReal t.isReal_date
    simp only [Date.number]
    omega
  have hday : Date.dayNumber ⟨9999, 12, 31⟩ = 2932896 := by decide
  have hseconds : lastWire.seconds + 60 = 86400 * 2932897 := by decide
  rw [← hnumber, ← Date.dayNumber_lt_iff hlast t.isReal_date, dayNumber_date, hday, hseconds]
  omega

/-- Wire instants lie between the first and the last. -/
theorem isWire_iff (t : Instant) :
    t.IsWire ↔ t.IsMinute ∧ firstWire.seconds ≤ t.seconds ∧ t.seconds ≤ lastWire.seconds := by
  have hfirst := year_lt_zero_iff t
  have hlast := lt_year_iff t
  have hminute : lastWire.seconds % 60 = 0 := by decide
  constructor
  · rintro ⟨hs, hn, h0, h1⟩
    exact ⟨⟨hs, hn⟩, by omega, by omega⟩
  · rintro ⟨⟨hs, hn⟩, h0, h1⟩
    exact ⟨hs, hn, by omega, by omega⟩

theorem toWire_of_before {t : Instant} (h : t.date.year < 0) : t.toWire = firstWire :=
  if_pos h

theorem toWire_of_after {t : Instant} (h : 9999 < t.date.year) : t.toWire = lastWire := by
  have hnot : ¬ t.date.year < 0 := by omega
  exact (if_neg hnot).trans (if_pos h)

theorem toWire_of_within {t : Instant} (h0 : 0 ≤ t.date.year) (h1 : t.date.year ≤ 9999) :
    t.toWire = t.toMinute :=
  (if_neg (Int.not_lt.mpr h0)).trans (if_neg (Int.not_lt.mpr h1))

theorem isGreatest_toMinute (t : Instant) : IsGreatest {u | u.IsMinute ∧ u ≤ t} t.toMinute := by
  have hseconds : t.toMinute.seconds = t.seconds - t.seconds % 60 := rfl
  have hnanos : t.toMinute.nanos = 0 := rfl
  refine ⟨⟨⟨by omega, hnanos⟩, le_iff.mpr (by omega)⟩, ?_⟩
  rintro u ⟨⟨hs, hn⟩, hle⟩
  have hle := seconds_le_of_le hle
  exact le_iff.mpr (by omega)

/-- Where the instant is moved. -/
theorem rounds_toWire (t : Instant) : t.Rounds t.toWire := by
  refine ⟨fun h0 h1 => ?_, fun h => ?_, fun h => ?_⟩
  · rw [toWire_of_within h0 h1]
    exact isGreatest_toMinute t
  · rw [toWire_of_before h]
    refine ⟨lt_iff.mpr (.inl ((year_lt_zero_iff t).mp h)), ⟨isWire_firstWire, fun u hu => ?_⟩,
      isWire_firstWire.isMinute, by decide, by decide, by decide⟩
    have hle := ((isWire_iff u).mp hu).2.1
    have hzero : firstWire.nanos = 0 := rfl
    exact le_iff.mpr (by omega)
  · rw [toWire_of_after h]
    have hlt := (lt_year_iff t).mp h
    refine ⟨lt_iff.mpr (by omega), ⟨isWire_lastWire, fun u hu => ?_⟩,
      isWire_lastWire.isMinute, by decide, by decide, by decide⟩
    have hle := ((isWire_iff u).mp hu).2.2
    exact le_iff.mpr (by have := hu.no_nanos; omega)

/-- Later instants are moved to later minutes. -/
theorem monotone_toWire : Monotone toWire := by
  intro t u h
  have hle := seconds_le_of_le h
  have ht := (isWire_iff _).mp (isWire_toWire t)
  have hu := (isWire_iff _).mp (isWire_toWire u)
  refine le_iff.mpr ?_
  rw [ht.1.no_nanos, hu.1.no_nanos]
  by_cases h0 : t.date.year < 0
  · rw [toWire_of_before h0] at ht ⊢
    omega
  · by_cases h1 : 9999 < u.date.year
    · rw [toWire_of_after h1] at hu ⊢
      omega
    · -- both lie in the years 0 to 9999, because one does from below and the other from above
      have hfirst := year_lt_zero_iff t
      have hfirst' := year_lt_zero_iff u
      have hlast := lt_year_iff t
      have hlast' := lt_year_iff u
      rw [toWire_of_within (by omega) (by omega), toWire_of_within (by omega) (by omega)]
      simp only [toMinute]
      omega

/-! ## Timestamps in order -/

/-- Year, month, day, hour and minute as one number. -/
def wireNumber (t : Instant) : Nat :=
  100 * (100 * (100 * (100 * t.date.year.toNat + t.date.month) + t.date.day) + t.hour) + t.minute

theorem wireDigits_eq {t : Instant} (h : t.IsWire) : t.wireDigits = padded 12 t.wireNumber := by
  obtain ⟨-, hmonth, -, hday⟩ := Date.bounds_of_isReal t.isReal_date
  have hhour := t.hour_lt
  have hminute := t.minute_lt
  rw [wireDigits, yearDigits_of_isWire h, wireNumber, padded_add_two 10 _ (by omega),
    padded_add_two 8 _ (by omega), padded_add_two 6 _ (by omega), padded_add_two 4 _ (by omega)]

theorem wireNumber_lt {t u : Instant} (ht : t.IsWire) (hu : u.IsWire) (h : t < u) :
    t.wireNumber < u.wireNumber := by
  have hlt : t.seconds < u.seconds := by
    have := lt_iff.mp h
    have := ht.no_nanos
    have := hu.no_nanos
    omega
  obtain ⟨-, hmonth, -, hday⟩ := Date.bounds_of_isReal t.isReal_date
  have hhour := t.hour_lt
  have hminute := t.minute_lt
  have htsum := seconds_eq_of_isWire ht
  have husum := seconds_eq_of_isWire hu
  have hdays : t.date.dayNumber ≤ u.date.dayNumber := by
    rw [dayNumber_date, dayNumber_date]
    omega
  have hyear := ht.first_year
  have hyear' := hu.first_year
  simp only [wireNumber]
  rcases Int.lt_or_eq_of_le hdays with hbefore | hsame
  · have hnumber := (Date.dayNumber_lt_iff t.isReal_date u.isReal_date).mp hbefore
    simp only [Date.number] at hnumber
    omega
  · have hdate : t.date = u.date := by
      rw [← Date.ofDayNumber_dayNumber t.isReal_date, hsame,
        Date.ofDayNumber_dayNumber u.isReal_date]
    have hminute' := u.minute_lt
    rw [hdate]
    omega

theorem wireNumber_bound {t : Instant} (h : t.IsWire) : t.wireNumber < Nat.pow 10 12 := by
  obtain ⟨-, hmonth, -, hday⟩ := Date.bounds_of_isReal t.isReal_date
  have hhour := t.hour_lt
  have hminute := t.minute_lt
  have hyear := h.last_year
  show t.wireNumber < 1000000000000
  simp only [wireNumber]
  omega

/-- Timestamps are ordered as the instants they stand for. -/
theorem strictMonoOn_wireDigits : StrictMonoOn wireDigits {t | t.IsWire} := by
  intro t ht u hu h
  rw [wireDigits_eq ht, wireDigits_eq hu]
  exact padded_lt_padded (wireNumber_lt ht hu h) (wireNumber_bound hu)

theorem length_wireDigits {t : Instant} (h : t.IsWire) : t.wireDigits.length = 12 := by
  rw [wireDigits_eq h, length_padded]

/-! ## Timestamps that are read -/

/-- Twelve digits that are those of a date, an hour and a minute, which need not exist. -/
structure Names (s : List Char) (date : Date) (hour minute : Nat) : Prop where
  length : s.length = 12
  digits : ∀ c ∈ s, isDigit c = true
  year : ∃ year, natural? (s.take 4) = some year ∧ date.year = year
  month : natural? ((s.drop 4).take 2) = some date.month
  day : natural? ((s.drop 6).take 2) = some date.day
  hour : natural? ((s.drop 8).take 2) = some hour
  minute : natural? ((s.drop 10).take 2) = some minute

/-- Twelve digits of a date that exists and of a time of day. -/
def NamesMinute (s : List Char) : Prop :=
  ∃ date hour minute, Names s date hour minute ∧ date.isReal = true ∧ hour < 24 ∧ minute < 60

/-- Five parts of four, two, two, two and two characters. -/
theorem slices {y m d h n : List Char} (hy : y.length = 4) (hm : m.length = 2)
    (hd : d.length = 2) (hh : h.length = 2) (hn : n.length = 2) :
    let s := y ++ m ++ d ++ h ++ n
    s.take 4 = y ∧ (s.drop 4).take 2 = m ∧ (s.drop 6).take 2 = d ∧ (s.drop 8).take 2 = h ∧
      (s.drop 10).take 2 = n := by
  simp [List.drop_append, List.take_of_length_le, List.drop_of_length_le, *]

theorem eq_slices {s : List Char} (h : s.length = 12) :
    s.take 4 ++ (s.drop 4).take 2 ++ (s.drop 6).take 2 ++ (s.drop 8).take 2 ++
      (s.drop 10).take 2 = s := by
  have hnext : ∀ k, (s.drop k).take 2 ++ s.drop (k + 2) = s.drop k := by
    intro k
    rw [← List.drop_drop, List.take_append_drop]
  have hlast : (s.drop 10).take 2 = s.drop 10 :=
    List.take_of_length_le (by rw [List.length_drop]; omega)
  rw [hlast]
  simp only [List.append_assoc, hnext, List.take_append_drop]

theorem natural?_pair {a b : Char} (ha : isDigit a = true) (hb : isDigit b = true) :
    natural? [a, b] = some (pair a b) := by
  simp [natural?, naturalFrom?, ha, hb, pair]

theorem natural?_pairs {a b c d : Char} (ha : isDigit a = true) (hb : isDigit b = true)
    (hc : isDigit c = true) (hd : isDigit d = true) :
    natural? [a, b, c, d] = some (100 * pair a b + pair c d) := by
  simp only [natural?, naturalFrom?, ha, hb, hc, hd, if_true, pair]
  congr 1
  omega

/-- A timestamp that is read names a date and a time. -/
theorem namesMinute_of_ofWireDigits? {s : List Char} {t : Instant}
    (h : ofWireDigits? s = some t) : NamesMinute s := by
  unfold ofWireDigits? at h
  split at h
  · rename_i y₁ y₂ y₃ y₄ m₁ m₂ d₁ d₂ h₁ h₂ n₁ n₂
    split at h
    · rename_i hdigits
      have hall := List.all_eq_true.mp hdigits
      simp only [List.all_cons, List.all_nil, Bool.and_eq_true] at hdigits
      obtain ⟨hy₁, hy₂, hy₃, hy₄, hm₁, hm₂, hd₁, hd₂, hh₁, hh₂, hn₁, hn₂, -⟩ := hdigits
      dsimp only at h
      split at h
      · rename_i hexists
        exact ⟨⟨100 * pair y₁ y₂ + pair y₃ y₄, pair m₁ m₂, pair d₁ d₂⟩, _, _,
          ⟨rfl, hall, ⟨_, natural?_pairs hy₁ hy₂ hy₃ hy₄, rfl⟩, natural?_pair hm₁ hm₂,
            natural?_pair hd₁ hd₂, natural?_pair hh₁ hh₂, natural?_pair hn₁ hn₂⟩, hexists⟩
      · cases h
    · cases h
  · cases h

/-- Dates and times that exist in the years 0 to 9999 are those of wire instants. -/
theorem exists_isWire {date : Date} {hour minute : Nat} (h0 : 0 ≤ date.year)
    (h1 : date.year ≤ 9999) (hdate : date.isReal = true) (hhour : hour < 24)
    (hminute : minute < 60) : ∃ t : Instant, t.IsWire ∧ t.IsMinuteOf date hour minute := by
  obtain ⟨hfirst, hlast⟩ := Date.dayNumber_bounds hdate h0 h1
  let t : Instant :=
    { seconds := 86400 * date.dayNumber + (3600 * hour + 60 * minute + 0 : Nat)
      nanos := 0
      first_le := by rw [firstSecond]; omega
      le_last := by rw [lastSecond]; omega
      nanos_lt := zero_nanos_lt
      leap_at_minute_end := no_leap _ }
  have hseconds : t.seconds = 86400 * date.dayNumber + (3600 * hour + 60 * minute + 0 : Nat) := rfl
  obtain ⟨hd, hh, hm, -⟩ := date_ofDate hdate hhour hminute (by decide) hseconds
  have hwhole : t.IsMinute := ⟨by omega, rfl⟩
  exact ⟨t, ⟨hwhole.whole_minute, rfl, hd.symm ▸ h0, hd.symm ▸ h1⟩, hwhole, hd, hh, hm⟩

/-- The digits of a wire instant name its date and its time. -/
theorem names_wireDigits {t : Instant} (h : t.IsWire) :
    Names t.wireDigits t.date t.hour t.minute := by
  obtain ⟨-, hmonth, -, hday⟩ := Date.bounds_of_isReal t.isReal_date
  have hhour := t.hour_lt
  have hminute := t.minute_lt
  have h0 := h.first_year
  have h1 := h.last_year
  have hyear : natural? (padded 4 t.date.year.toNat) = some t.date.year.toNat :=
    natural?_padded (by decide) (by show t.date.year.toNat < 10000; omega)
  have hpair : ∀ {n}, n < 100 → natural? (padded 2 n) = some n := fun hn =>
    natural?_padded (by decide) hn
  have hslices := slices (length_padded 4 t.date.year.toNat) (length_padded 2 t.date.month)
    (length_padded 2 t.date.day) (length_padded 2 t.hour) (length_padded 2 t.minute)
  rw [← yearDigits_of_isWire h] at hslices
  obtain ⟨hy, hm, hd, hh, hn⟩ := hslices
  refine ⟨length_wireDigits h, fun c => isDigit_of_mem_wireDigits h,
    ⟨t.date.year.toNat, ?_, by omega⟩, ?_, ?_, ?_, ?_⟩
  · rw [wireDigits, hy, yearDigits_of_isWire h, hyear]
  · rw [wireDigits, hm, hpair (by omega)]
  · rw [wireDigits, hd, hpair (by omega)]
  · rw [wireDigits, hh, hpair (by omega)]
  · rw [wireDigits, hn, hpair (by omega)]

/-- What names a date and a time that exist is what is written for an instant. -/
theorem exists_of_namesMinute {s : List Char} (h : NamesMinute s) :
    ∃ t : Instant, t.IsWire ∧ t.wireDigits = s := by
  obtain ⟨date, hour, minute, ⟨hlength, -, ⟨year, hyear, hdateYear⟩, hmonth, hday, hh, hm⟩,
    hdate, hhour, hminute⟩ := h
  have hfour : (s.take 4).length = 4 := by rw [List.length_take, hlength]; rfl
  have hyearDigits := padded_of_naturalFrom? (naturalFrom?_of_natural? hyear)
  have hbound := lt_of_natural? hyear
  rw [hfour] at hyearDigits hbound
  have hbound : year < 10000 := hbound
  have hpair : ∀ {k n}, k ≤ 10 → natural? ((s.drop k).take 2) = some n →
      padded 2 n = (s.drop k).take 2 := by
    intro k n hk hread
    have hdigits := padded_of_naturalFrom? (naturalFrom?_of_natural? hread)
    have htwo : ((s.drop k).take 2).length = 2 := by
      rw [List.length_take, List.length_drop, hlength]
      omega
    rwa [htwo] at hdigits
  obtain ⟨t, ht, -, hd, rfl, rfl⟩ := exists_isWire (by omega) (by omega) hdate hhour hminute
  refine ⟨t, ht, ?_⟩
  rw [wireDigits, yearDigits_of_isWire ht, hd, hdateYear, Int.toNat_natCast, hyearDigits,
    hpair (by decide) hmonth, hpair (by decide) hday, hpair (by decide) hh,
    hpair (by decide) hm, eq_slices hlength]

/-- What is read is exactly what is written for a wire instant. -/
theorem ofWireDigits?_eq_some_iff {s : List Char} {t : Instant} :
    ofWireDigits? s = some t ↔ t.IsWire ∧ t.wireDigits = s := by
  constructor
  · intro h
    obtain ⟨u, hu, rfl⟩ := exists_of_namesMinute (namesMinute_of_ofWireDigits? h)
    rw [ofWireDigits?_wireDigits hu, Option.some.injEq] at h
    exact h ▸ ⟨hu, rfl⟩
  · rintro ⟨ht, rfl⟩
    exact ofWireDigits?_wireDigits ht

/-- A timestamp is read exactly when it names a date and a time that exist. -/
theorem exists_ofWireDigits?_iff {s : List Char} :
    (∃ t, ofWireDigits? s = some t) ↔ NamesMinute s := by
  constructor
  · rintro ⟨t, h⟩
    exact namesMinute_of_ofWireDigits? h
  · intro h
    obtain ⟨t, ht, rfl⟩ := exists_of_namesMinute h
    exact ⟨t, ofWireDigits?_wireDigits ht⟩

/-- **Wire timestamps.** An instant is rounded down to its minute and moved into the years 0 to
9999, and what is moved there stays. Twelve digits are written for it and read back, and they are
ordered as the instants are. A text is read exactly when it is twelve digits of a date and a time
that exist; the instant that is read has that date and time, and the text is what is written for
it. -/
theorem toWire_faithful :
    (∀ t : Instant, t.Rounds t.toWire ∧ t.toWire.toWire = t.toWire) ∧
      Monotone toWire ∧
      (∀ t : Instant, t.toWire.wireDigits.length = 12 ∧
        (∀ c ∈ t.toWire.wireDigits, isDigit c = true) ∧
        ofWireDigits? t.toWire.wireDigits = some t.toWire) ∧
      (∀ t u : Instant, t.toWire.wireDigits < u.toWire.wireDigits ↔ t.toWire < u.toWire) ∧
      (∀ t u : Instant, t ≤ u → t.toWire.wireDigits ≤ u.toWire.wireDigits) ∧
      (∀ s, (∃ t, ofWireDigits? s = some t) ↔ NamesMinute s) ∧
      (∀ s t, ofWireDigits? s = some t →
        t.IsWire ∧ t.wireDigits = s ∧ Names s t.date t.hour t.minute) := by
  refine ⟨fun t => ⟨rounds_toWire t, toWire_of_isWire (isWire_toWire t)⟩, monotone_toWire,
    fun t => ?_, fun t u => ?_, fun t u h => ?_, fun s => exists_ofWireDigits?_iff,
    fun s t h => ?_⟩
  · have ht := isWire_toWire t
    exact ⟨length_wireDigits ht, fun c => isDigit_of_mem_wireDigits ht,
      ofWireDigits?_wireDigits ht⟩
  · exact strictMonoOn_wireDigits.lt_iff_lt (isWire_toWire t) (isWire_toWire u)
  · exact strictMonoOn_wireDigits.monotoneOn (isWire_toWire t) (isWire_toWire u)
      (monotone_toWire h)
  · obtain ⟨ht, rfl⟩ := ofWireDigits?_eq_some_iff.mp h
    exact ⟨ht, rfl, names_wireDigits ht⟩

/-- The middle of the leap second at the end of 2016. -/
def leapSecond : Instant where
  seconds := 1483228799
  nanos := 1500000000
  first_le := by decide
  le_last := by decide
  nanos_lt := by decide
  leap_at_minute_end := by decide

/-- A moment of the year -5001. -/
def ancient : Instant where
  seconds := -219958329601
  nanos := 7
  first_le := by decide
  le_last := by decide
  nanos_lt := by decide
  leap_at_minute_end := by decide

/-- A leap second belongs to the minute before it, a year before the year 0 becomes the first
minute of that year, the order of the two is kept, and a leap day is read. -/
theorem toWire_faithful_leapSecond :
    IsGreatest {u | u.IsMinute ∧ u ≤ leapSecond} leapSecond.toWire ∧
      leapSecond.toWire.wireDigits = "201612312359".toList ∧
      ancient.toWire.IsMinuteOf ⟨0, 1, 1⟩ 0 0 ∧
      ancient ≤ leapSecond ∧ ancient.toWire.wireDigits ≤ leapSecond.toWire.wireDigits ∧
      ∃ t, ofWireDigits? "202402291305".toList = some t ∧
        t.wireDigits = "202402291305".toList := by
  obtain ⟨hrounds, -, -, -, hle, hnames, hwritten⟩ := toWire_faithful
  have horder : ancient ≤ leapSecond := le_iff.mpr (by decide)
  obtain ⟨t, ht⟩ := (hnames "202402291305".toList).mpr ⟨⟨2024, 2, 29⟩, 13, 5,
    ⟨by decide, by decide, ⟨2024, by decide⟩, by decide, by decide, by decide, by decide⟩,
    by decide⟩
  exact ⟨(hrounds leapSecond).1.within (by decide) (by decide), by decide,
    ((hrounds ancient).1.before (by decide)).2.2, horder, hle _ _ horder, t, ht,
    (hwritten _ t ht).2.1⟩

end Time.Instant
end PaperSearch
