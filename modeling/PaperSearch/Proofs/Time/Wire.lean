import PaperSearch.Proofs.Text.Digits
import PaperSearch.Proofs.Time.Calendar
import PaperSearch.Time.Wire

/-!
# Wire timestamps read back

`IsWire` describes the instants that twelve digits can hold. Every instant is moved to one of
them (`isWire_toWire`), those that are stay where they are (`toWire_of_isWire`), and what is
written for one of them is read back as it (`ofWireDigits?_wireDigits`).
-/

namespace PaperSearch.Time.Instant

open Text

/-- A whole minute of the years 0 to 9999. -/
structure IsWire (t : Instant) : Prop where
  whole_minute : t.seconds % 60 = 0
  no_nanos : t.nanos = 0
  first_year : 0 ≤ t.date.year
  last_year : t.date.year ≤ 9999

theorem date_toMinute (t : Instant) : t.toMinute.date = t.date := by
  have h : (t.seconds - t.seconds % 60) / 86400 = t.seconds / 86400 := by omega
  simp only [date, toMinute, h]

theorem isWire_firstWire : IsWire firstWire := by
  constructor <;> decide

theorem isWire_lastWire : IsWire lastWire := by
  constructor <;> decide

theorem isWire_toWire (t : Instant) : t.toWire.IsWire := by
  simp only [toWire]
  split
  · exact isWire_firstWire
  · split
    · exact isWire_lastWire
    · rename_i hfirst hlast
      have hminute : (t.seconds - t.seconds % 60) % 60 = 0 := by omega
      refine ⟨hminute, rfl, ?_, ?_⟩
      · rw [date_toMinute]
        exact Int.not_lt.mp hfirst
      · rw [date_toMinute]
        exact Int.not_lt.mp hlast

theorem toWire_of_isWire {t : Instant} (h : t.IsWire) : t.toWire = t := by
  obtain ⟨hs, hn, h0, h1⟩ := h
  have hm : t.toMinute = t := by
    cases t
    simp only [toMinute] at *
    simp [hs, hn]
  simp only [toWire]
  rw [if_neg (by omega), if_neg (by omega), hm]

/-! ## Parts of an instant -/

theorem isReal_date (t : Instant) : t.date.isReal = true :=
  Date.isReal_ofDayNumber _

theorem month_le_of_isReal {d : Date} (h : d.isReal = true) : d.month ≤ 12 := by
  simp only [Date.isReal, Bool.and_eq_true, decide_eq_true_eq] at h
  obtain ⟨h1, h2⟩ := h
  unfold daysInMonth at h2
  split at h2 <;> omega

theorem day_le_of_isReal {d : Date} (h : d.isReal = true) : d.day ≤ 31 := by
  simp only [Date.isReal, Bool.and_eq_true, decide_eq_true_eq] at h
  obtain ⟨h1, h2⟩ := h
  unfold daysInMonth at h2
  repeat' split at h2
  all_goals omega

theorem hour_lt (t : Instant) : t.hour < 24 := by
  simp only [hour, secondOfDay]
  omega

theorem minute_lt (t : Instant) : t.minute < 60 := by
  simp only [minute]
  omega

/-- A whole minute is its date, its hour and its minute. -/
theorem seconds_eq_of_isWire {t : Instant} (h : t.IsWire) :
    86400 * t.date.dayNumber + ((3600 * t.hour + 60 * t.minute : Nat) : Int) = t.seconds := by
  have hs := h.whole_minute
  rw [date, Date.dayNumber_ofDayNumber]
  simp only [hour, minute, secondOfDay]
  omega

theorem ofParts?_self (t : Instant) : ofParts? t.seconds t.nanos = some t := by
  simp only [ofParts?, t.first_le, t.le_last, t.nanos_lt, dif_pos]
  exact dif_pos t.leap_at_minute_end

/-! ## Digits -/

theorem yearDigits_of_isWire {t : Instant} (h : t.IsWire) :
    yearDigits t.date.year = padded 4 t.date.year.toNat :=
  if_pos ⟨h.first_year, h.last_year⟩

/-- What is written for a wire instant holds digits only. -/
theorem isDigit_of_mem_wireDigits {t : Instant} (h : t.IsWire) {c : Char}
    (hc : c ∈ t.wireDigits) : isDigit c = true := by
  simp only [wireDigits, yearDigits_of_isWire h, List.mem_append] at hc
  rcases hc with (((hc | hc) | hc) | hc) | hc <;> exact isDigit_of_mem_padded hc

theorem pair_digitChar {n : Nat} (h : n < 100) : pair (digitChar (n / 10)) (digitChar n) = n := by
  simp only [pair, digitValue_digitChar]
  omega

/-- What is written for a wire instant is read back as it. -/
theorem ofWireDigits?_wireDigits {t : Instant} (h : t.IsWire) :
    ofWireDigits? t.wireDigits = some t := by
  have hmonth : t.date.month < 100 := by
    have := month_le_of_isReal t.isReal_date
    omega
  have hday : t.date.day < 100 := by
    have := day_le_of_isReal t.isReal_date
    omega
  have hhour : t.hour < 100 := Nat.lt_trans t.hour_lt (by decide)
  have hminute : t.minute < 100 := Nat.lt_trans t.minute_lt (by decide)
  have h0 := h.first_year
  have h1 := h.last_year
  have hcentury : t.date.year.toNat / 10 / 10 < 100 := by omega
  have hyear : (100 * pair (digitChar (t.date.year.toNat / 10 / 10 / 10))
      (digitChar (t.date.year.toNat / 10 / 10)) + pair (digitChar (t.date.year.toNat / 10))
      (digitChar t.date.year.toNat) : Int) = t.date.year := by
    rw [pair_digitChar hcentury]
    simp only [pair, digitValue_digitChar]
    omega
  have hdigits := fun c => isDigit_of_mem_wireDigits h (c := c)
  simp only [wireDigits, yearDigits_of_isWire h, padded, List.nil_append, List.cons_append]
    at hdigits ⊢
  rw [ofWireDigits?, if_pos (List.all_eq_true.mpr hdigits)]
  simp only [hyear, pair_digitChar hmonth, pair_digitChar hday, pair_digitChar hhour,
    pair_digitChar hminute]
  rw [if_pos ⟨t.isReal_date, t.hour_lt, t.minute_lt⟩, ofDate?]
  rw [show (⟨t.date.year, t.date.month, t.date.day⟩ : Date) = t.date from rfl,
    seconds_eq_of_isWire h, ← h.no_nanos, ofParts?_self]

end PaperSearch.Time.Instant
