import PaperSearch.Proofs.Text.Tidy
import PaperSearch.Proofs.Time.Lenient
import PaperSearch.Proofs.Time.Order

/-!
# Timestamps in other zones

An instant has many timestamps: the clock of every zone shows it, the fraction of its second may
have more digits than it needs, and several characters may stand between date and time or for the
sign of the offset (`Writes`). All of them are read as the instant (`Writes.parse`), and none has
white space in it but the space that may stand between date and time (`Writes.tidy`).

Each part is written by a relation of its own and read back by its own lemma:
`WritesFraction.reads`, `WritesZone.reads` and, for date and time, `assemble?_local`.
-/

namespace PaperSearch

/-! ## Numbers read in two parts -/

namespace Text

/-- What was read before more digits is what is left of the number without them. -/
theorem div_of_naturalFrom? {m n : Nat} {s : List Char} (h : naturalFrom? m s = some n) :
    n / Nat.pow 10 s.length = m := by
  induction s generalizing m with
  | nil =>
    obtain rfl : m = n := Option.some.inj h
    exact Nat.div_one m
  | cons c s ih =>
    rw [naturalFrom?] at h
    split at h
    · rename_i hc
      have hvalue := digitValue_lt hc
      show n / (Nat.pow 10 s.length * 10) = m
      rw [← Nat.div_div_eq_div_mul, ih h]
      omega
    · cases h

/-- The first digits of a number that is read are read. -/
theorem naturalFrom?_take {n : Nat} {s : List Char} (h : naturalFrom? 0 s = some n) (k : Nat) :
    naturalFrom? 0 (s.take k) = some (n / Nat.pow 10 (s.length - k)) := by
  rw [← List.take_append_drop k s, naturalFrom?_append] at h
  obtain ⟨m, hm, hrest⟩ := Option.bind_eq_some_iff.mp h
  rw [hm, ← div_of_naturalFrom? hrest, List.length_drop]

end Text

namespace Time

open Text

/-! ## The clock of a zone -/

namespace Instant

/-- The seconds that the clock of a zone shows, so many minutes east of UTC. -/
def localSeconds (t : Instant) (east : Int) : Int :=
  t.seconds + 60 * east

def localDate (t : Instant) (east : Int) : Date :=
  Date.ofDayNumber (t.localSeconds east / 86400)

def localHour (t : Instant) (east : Int) : Nat :=
  (t.localSeconds east % 86400).toNat / 3600

def localMinute (t : Instant) (east : Int) : Nat :=
  (t.localSeconds east % 86400).toNat / 60 % 60

variable (t : Instant) (east : Int)

theorem isReal_localDate : (t.localDate east).isReal = true :=
  Date.isReal_ofDayNumber _

theorem localHour_lt : t.localHour east < 24 := by
  simp only [localHour]
  omega

theorem localMinute_lt : t.localMinute east < 60 := by
  simp only [localMinute]
  omega

/-- Zones differ by whole minutes, so the seconds of a minute are the same in all. -/
theorem localSeconds_eq : 86400 * (t.localDate east).dayNumber +
    ((3600 * t.localHour east + 60 * t.localMinute east + t.second : Nat) : Int) =
      t.localSeconds east := by
  have hsecond : t.second = (t.localSeconds east % 86400).toNat % 60 := by
    simp only [second, secondOfDay, localSeconds]
    omega
  rw [localDate, Date.dayNumber_ofDayNumber, hsecond]
  simp only [localHour, localMinute]
  omega

variable {t east}

theorem localSeconds_bounds (hfirst : 0 ≤ (t.localDate east).year)
    (hlast : (t.localDate east).year ≤ 9999) :
    firstSecond ≤ t.localSeconds east ∧ t.localSeconds east ≤ lastSecond := by
  obtain ⟨hlow, hhigh⟩ := Date.dayNumber_bounds (t.isReal_localDate east) hfirst hlast
  rw [localDate, Date.dayNumber_ofDayNumber] at hlow hhigh
  rw [firstSecond, lastSecond]
  omega

end Instant

namespace Rfc3339

/-! ## Fractions -/

/-- A point and digits after it, as many as the fraction needs or more; nothing may stand for no
fraction. -/
inductive WritesFraction (nanos : Nat) : List Char → Prop where
  | whole (h : nanos = 0) : WritesFraction nanos []
  | point {digits : List Char} {n : Nat} (number : natural? digits = some n)
    (value : n * Nat.pow 10 9 = nanos * Nat.pow 10 digits.length) :
    WritesFraction nanos ('.' :: digits)

/-- Digits after the ninth are dropped, but they are zeros. -/
theorem fractionNanos_eq {digits : List Char} {n nanos : Nat}
    (hread : naturalFrom? 0 digits = some n)
    (hvalue : n * Nat.pow 10 9 = nanos * Nat.pow 10 digits.length) :
    fractionNanos digits = nanos := by
  rw [fractionNanos, naturalFrom?_take hread, List.length_take, Option.getD_some]
  have hpos : ∀ k, 0 < Nat.pow 10 k := fun k => Nat.pow_pos (by decide)
  have hadd : ∀ a b, Nat.pow 10 (a + b) = Nat.pow 10 a * Nat.pow 10 b := Nat.pow_add 10
  rcases Nat.le_total digits.length 9 with hshort | hlong
  · rw [Nat.min_eq_right hshort, Nat.sub_eq_zero_of_le hshort]
    show n / 1 * _ = nanos
    rw [Nat.div_one]
    refine Nat.eq_of_mul_eq_mul_right (hpos digits.length) ?_
    rw [← hvalue, Nat.mul_assoc, ← hadd, Nat.sub_add_cancel hshort]
  · rw [Nat.min_eq_left hlong]
    show n / _ * 1 = nanos
    have hn : n = nanos * Nat.pow 10 (digits.length - 9) := by
      refine Nat.eq_of_mul_eq_mul_right (hpos 9) ?_
      rw [hvalue, Nat.mul_assoc, ← hadd, Nat.sub_add_cancel hlong]
    rw [Nat.mul_one, hn, Nat.mul_div_cancel _ (hpos _)]

theorem WritesFraction.reads {nanos : Nat} {written rest : List Char}
    (h : WritesFraction nanos written) (hrest : ∀ c ∈ rest.head?, c ≠ '.' ∧ isDigit c = false) :
    fraction (written ++ rest) = .ok (nanos, rest) := by
  cases h with
  | whole hzero =>
    rw [List.nil_append, fraction_of_head? fun c hc => (hrest c hc).1, hzero]
  | @point digits n hnumber hvalue =>
    have hread := naturalFrom?_of_natural? hnumber
    obtain ⟨c, more, rfl⟩ := exists_cons_of_natural? hnumber
    rw [List.cons_append, fraction_point (List.cons_ne_nil c more) (isDigit_of_naturalFrom? hread)
      fun d hd => (hrest d hd).2, fractionNanos_eq hread hvalue]

theorem WritesFraction.not_blank {nanos : Nat} {written : List Char}
    (h : WritesFraction nanos written) : ∀ c ∈ written, isBlank c = false := by
  cases h with
  | whole _ => exact List.forall_mem_nil _
  | point hnumber _ =>
    have hdigits := isDigit_of_naturalFrom? (naturalFrom?_of_natural? hnumber)
    exact List.forall_mem_cons.mpr ⟨rfl, fun c hc => isBlank_of_isDigit (hdigits c hc)⟩

/-! ## Offsets -/

/-- Hours and minutes of an offset. -/
def offsetDigits (east : Int) : List Char :=
  padded 2 (east.natAbs / 60) ++ ':' :: padded 2 (east.natAbs % 60)

/-- The offset of a zone that lies so many minutes east. -/
inductive WritesZone (east : Int) : List Char → Prop where
  | utc {z : Char} (h : east = 0) (letter : z = 'Z' ∨ z = 'z') : WritesZone east [z]
  | plus (h : 0 ≤ east) : WritesZone east ('+' :: offsetDigits east)
  | minus {sign : Char} (h : east ≤ 0) (mark : sign = '-' ∨ sign = '\u2212') :
    WritesZone east (sign :: offsetDigits east)

theorem offset_sign {sign : Char} {west : Bool} (hz : ¬ (sign = 'Z' ∨ sign = 'z'))
    (hsign : west? sign = some west) {east : Int} (h : east.natAbs < 1440) :
    offset (symbol (· == ':')) (sign :: offsetDigits east) =
      .ok (if west then -(60 * east.natAbs) else 60 * east.natAbs, []) := by
  have hpair : ∀ n rest, offsetPair (padded 2 n ++ rest) =
      .ok ((digitChar (n / 10), digitChar n), rest) := by
    intro n rest
    simp [padded, offsetPair]
  have hlast := hpair (east.natAbs % 60) []
  rw [List.append_nil] at hlast
  have hminutes : 10 * (east.natAbs % 60 / 10 % 10) + east.natAbs % 60 % 10 < 60 := by omega
  rw [offset, if_neg hz, hsign]
  dsimp only
  rw [offsetDigits, bind_of_ok (hpair _ _), bind_of_ok (symbol_of_accepts rfl _), bind_of_ok hlast]
  dsimp only
  rw [digitValue_digitChar, digitValue_digitChar, digitValue_digitChar, digitValue_digitChar,
    bind_of_ok (require_of_true (decide_eq_true hminutes) _ _)]
  have hvalue : (3600 * ((10 * (east.natAbs / 60 / 10 % 10) + east.natAbs / 60 % 10 : Nat) : Int) +
      60 * ((10 * (east.natAbs % 60 / 10 % 10) + east.natAbs % 60 % 10 : Nat) : Int)) =
        60 * (east.natAbs : Int) := by omega
  rw [hvalue]
  rfl

theorem WritesZone.reads {east : Int} {zone : List Char} (h : WritesZone east zone)
    (heast : east.natAbs < 1440) :
    offset (symbol (· == ':')) zone = .ok (60 * east, []) := by
  cases h with
  | utc hzero hletter =>
    rw [offset, if_pos hletter, hzero]
    rfl
  | plus hle =>
    have hvalue : (east.natAbs : Int) = east := by omega
    rw [offset_sign (by decide) rfl heast, hvalue]
    rfl
  | @minus sign hle hmark =>
    have hvalue : -(60 * (east.natAbs : Int)) = 60 * east := by omega
    have hz : ¬ (sign = 'Z' ∨ sign = 'z') := by rcases hmark with rfl | rfl <;> decide
    have hwest : west? sign = some true := by rcases hmark with rfl | rfl <;> rfl
    rw [offset_sign hz hwest heast, if_pos rfl, hvalue]

theorem WritesZone.head {east : Int} {zone : List Char} (h : WritesZone east zone) :
    ∀ c ∈ zone.head?, c ≠ '.' ∧ isDigit c = false := by
  cases h with
  | utc _ hletter => rcases hletter with rfl | rfl <;> rintro c ⟨⟩ <;> decide
  | plus _ => rintro c ⟨⟩; decide
  | minus _ hmark => rcases hmark with rfl | rfl <;> rintro c ⟨⟩ <;> decide

theorem not_blank_of_mem_padded {places n : Nat} {c : Char} (h : c ∈ padded places n) :
    isBlank c = false :=
  isBlank_of_isDigit (isDigit_of_mem_padded h)

theorem WritesZone.not_blank {east : Int} {zone : List Char} (h : WritesZone east zone) :
    ∀ c ∈ zone, isBlank c = false := by
  have hdigits : ∀ c ∈ offsetDigits east, isBlank c = false := by
    simp only [offsetDigits, List.mem_append, List.mem_cons]
    rintro c (hc | rfl | hc)
    · exact not_blank_of_mem_padded hc
    · rfl
    · exact not_blank_of_mem_padded hc
  cases h with
  | utc _ hletter => rcases hletter with rfl | rfl <;> exact List.forall_mem_singleton.mpr rfl
  | plus _ => exact List.forall_mem_cons.mpr ⟨rfl, hdigits⟩
  | minus _ hmark =>
    rcases hmark with rfl | rfl <;> exact List.forall_mem_cons.mpr ⟨by decide, hdigits⟩

/-! ## Timestamps -/

/-- The date that the clock of a zone shows, in the years 0 to 9999. -/
def dateText (t : Instant) (east : Int) : List Char :=
  padded 4 (t.localDate east).year.toNat ++ '-' :: padded 2 (t.localDate east).month ++
    '-' :: padded 2 (t.localDate east).day

/-- The time of day that the clock of a zone shows, to the second. -/
def timeText (t : Instant) (east : Int) : List Char :=
  padded 2 (t.localHour east) ++ ':' :: padded 2 (t.localMinute east) ++
    ':' :: padded 2 (clock t).1

theorem isWord_dateText (t : Instant) (east : Int) : IsWord (dateText t east) where
  ne_nil := by simp [dateText]
  not_blank := by
    simp only [dateText, List.mem_append, List.mem_cons]
    rintro c ((hc | rfl | hc) | rfl | hc)
    · exact not_blank_of_mem_padded hc
    · rfl
    · exact not_blank_of_mem_padded hc
    · rfl
    · exact not_blank_of_mem_padded hc

theorem not_blank_of_mem_timeText {t : Instant} {east : Int} {c : Char}
    (h : c ∈ timeText t east) : isBlank c = false := by
  simp only [timeText, List.mem_append, List.mem_cons] at h
  rcases h with (hc | rfl | hc) | rfl | hc
  · exact not_blank_of_mem_padded hc
  · rfl
  · exact not_blank_of_mem_padded hc
  · rfl
  · exact not_blank_of_mem_padded hc

/-- A timestamp of the instant, by the clock of a zone less than a day away from UTC. -/
inductive Writes (t : Instant) : List Char → Prop where
  | intro {east : Int} {separator : Char} {fraction zone : List Char}
    (near : east.natAbs < 1440) (first_year : 0 ≤ (t.localDate east).year)
    (last_year : (t.localDate east).year ≤ 9999)
    (separates : separator = 'T' ∨ separator = 't' ∨ separator = ' ')
    (writes_fraction : WritesFraction (clock t).2 fraction) (writes_zone : WritesZone east zone) :
    Writes t (dateText t east ++ separator :: (timeText t east ++ (fraction ++ zone)))

namespace Writes

variable {t : Instant} {s : List Char}

/-- **Timestamps of any zone are read back.** -/
theorem parse (h : Writes t s) : Rfc3339.parse s = .ok t := by
  obtain ⟨hnear, hfirst, hlast, hseparator, hfraction, hzone⟩ := h
  rename_i east separator fraction zone
  have hyear : ((t.localDate east).year.toNat : Int) = (t.localDate east).year :=
    Int.toNat_of_nonneg hfirst
  have hdate : (⟨(t.localDate east).year.toNat, (t.localDate east).month,
      (t.localDate east).day⟩ : Date) = t.localDate east := by
    rw [hyear]
  have hclock : (t.localHour east < 24 && t.localMinute east < 60 && (clock t).1 ≤ 60) = true := by
    simp [t.localHour_lt east, t.localMinute_lt east, (clock_bounds t).1]
  have hbounds := Instant.localSeconds_bounds hfirst hlast
  have hassemble : assemble? (t.localDate east) (t.localHour east) (t.localMinute east)
      (clock t).1 (clock t).2 (60 * east) = some t :=
    assemble?_local (t.isReal_localDate east) (t.localHour_lt east) (t.localMinute_lt east)
      (by omega) (t.localSeconds_eq east) hbounds.1 hbounds.2
  have hread := timestamp_written (by omega) (hdate ▸ t.isReal_localDate east)
    (by rcases hseparator with rfl | rfl | rfl <;> rfl :
      (separator == 'T' || separator == 't' || separator == ' ') = true) hclock
    (hfraction.reads hzone.head) (hzone.reads hnear)
  rw [hdate, hassemble] at hread
  have htext : dateText t east ++ separator :: (timeText t east ++ (fraction ++ zone)) =
      padded 4 (t.localDate east).year.toNat ++ '-' :: padded 2 (t.localDate east).month ++
        '-' :: padded 2 (t.localDate east).day ++ separator :: padded 2 (t.localHour east) ++
        ':' :: padded 2 (t.localMinute east) ++ ':' :: padded 2 (clock t).1 ++
        (fraction ++ zone) := by
    simp [dateText, timeText]
  have hsize : ¬ byteLength (dateText t east ++ separator :: (timeText t east ++
      (fraction ++ zone))) < 19 := by
    have hlength := length_le_byteLength (dateText t east ++ separator :: (timeText t east ++
      (fraction ++ zone)))
    have hparts : (dateText t east).length = 10 ∧ (timeText t east).length = 8 := by
      simp [dateText, timeText, length_padded]
    rw [List.length_append, List.length_cons, List.length_append, hparts.1, hparts.2] at hlength
    omega
  rw [Rfc3339.parse, if_neg hsize, htext, hread]
  rfl

theorem ne_nil (h : Writes t s) : s ≠ [] := by
  obtain ⟨-, -, -, -, -, -⟩ := h
  exact List.append_ne_nil_of_right_ne_nil _ (List.cons_ne_nil _ _)

/-- A timestamp is a word, or two words with a space between them. -/
theorem tidy (h : Writes t s) : Tidy s := by
  obtain ⟨-, -, -, hseparator, hfraction, hzone⟩ := h
  rename_i east separator fraction zone
  have hdate := isWord_dateText t east
  have htime : IsWord (timeText t east ++ (fraction ++ zone)) := by
    refine ⟨by simp [timeText], fun c hc => ?_⟩
    rcases List.mem_append.mp hc with hc | hc
    · exact not_blank_of_mem_timeText hc
    · exact (List.mem_append.mp hc).elim (hfraction.not_blank c) (hzone.not_blank c)
  have hword : isBlank separator = false →
      Tidy (dateText t east ++ separator :: (timeText t east ++ (fraction ++ zone))) := by
    intro hplain
    refine tidy_of_isWord ⟨by simp, fun c hc => ?_⟩
    rcases List.mem_append.mp hc with hc | hc
    · exact hdate.not_blank c hc
    · exact (List.mem_cons.mp hc).elim (fun heq => heq ▸ hplain) (htime.not_blank c)
  rcases hseparator with rfl | rfl | rfl
  · exact hword rfl
  · exact hword rfl
  · exact (tidy_of_isWord htime).word_append hdate htime.ne_nil

end Writes
end Rfc3339
end Time
end PaperSearch
