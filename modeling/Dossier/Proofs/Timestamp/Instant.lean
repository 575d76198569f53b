import Dossier.Proofs.Except
import Dossier.Proofs.Row.Sorting
import Dossier.Proofs.Timestamp.Parts
import Dossier.Timestamp.Epoch
import Dossier.Timestamp.Reader
import Mathlib.Algebra.BigOperators.Intervals
import Mathlib.Algebra.Order.BigOperators.Group.Finset
import Mathlib.Data.Prod.Lex
import Mathlib.Order.Interval.Finset.Nat

/-! # Instants

The days of the calendar are numbered through, so an instant is a number of seconds of universal time with the
nanoseconds on top. A leap second has the number of the second in front of it and more nanoseconds than that
second has. Timestamps are ordered as their instants are, and the instant of a timestamp that was read is the one
that its text names, whatever the zone of that text. Main statements: `le_iff_instant_le` and
`instant_of_readRelaxed`.
-/

namespace Dossier

namespace Date

open Timestamp (daysInYear)

/-- The days from the first of the year 1 up to a year. -/
def daysBeforeYear (year : Int) : Int :=
  365 * (year - 1) + (year - 1) / 4 - (year - 1) / 100 + (year - 1) / 400

/-- The days of a year up to a month. -/
def daysBeforeMonth (year : Int) (month : Nat) : Nat :=
  ∑ earlier ∈ Finset.Ico 1 month, daysInMonth year earlier

/-- The number of a day, counted from the first of the year 1. -/
def dayNumber (year : Int) (month day : Nat) : Int :=
  daysBeforeYear year + daysBeforeMonth year month + day

def number (d : Date) : Int :=
  dayNumber d.year.value d.month.value d.day.value

variable {d e : Date} {year : Int} {month other : Nat}

theorem daysBeforeYear_succ (year : Int) :
    daysBeforeYear (year + 1) = daysBeforeYear year + daysInYear year := by
  simp only [daysBeforeYear, daysInYear, isLeapYear, Bool.and_eq_true, Bool.or_eq_true, beq_iff_eq,
    bne_iff_ne]
  split <;> omega

theorem daysBeforeYear_mono {other : Int} (less : year ≤ other) :
    daysBeforeYear year ≤ daysBeforeYear other := by
  simp only [daysBeforeYear]
  omega

theorem daysBeforeMonth_one : daysBeforeMonth year 1 = 0 := rfl

theorem daysBeforeMonth_succ (year : Int) (first : 1 ≤ month) :
    daysBeforeMonth year (month + 1) = daysBeforeMonth year month + daysInMonth year month :=
  Finset.sum_Ico_succ_top first _

theorem daysBeforeMonth_mono (less : month ≤ other) :
    daysBeforeMonth year month ≤ daysBeforeMonth year other :=
  Finset.sum_le_sum_of_subset (Finset.Ico_subset_Ico_right less)

/-- All months together are the year. -/
theorem daysBeforeMonth_thirteen (year : Int) : daysBeforeMonth year 13 = daysInYear year := by
  cases leap : isLeapYear year <;>
    simp [daysBeforeMonth, Finset.sum_Ico_succ_top, daysInMonth, daysInYear, leap]

/-- A day comes before the next month. -/
theorem day_le (d : Date) :
    daysBeforeMonth d.year.value d.month.value + d.day.value ≤
      daysBeforeMonth d.year.value (d.month.value + 1) := by
  rw [daysBeforeMonth_succ d.year.value d.month.ge]
  exact Nat.add_le_add_left d.day.le _

/-- A day comes before the next year. -/
theorem number_le (d : Date) : d.number ≤ daysBeforeYear (d.year.value + 1) := by
  have inMonth := d.day_le
  have inYear : daysBeforeMonth d.year.value (d.month.value + 1) ≤ daysBeforeMonth d.year.value 13 :=
    daysBeforeMonth_mono (Nat.succ_le_succ d.month.le)
  rw [daysBeforeMonth_thirteen] at inYear
  rw [number, dayNumber, daysBeforeYear_succ]
  omega

/-- Whether a day comes before another one. -/
def Before (d e : Date) : Prop :=
  d.year.value < e.year.value ∨ d.year.value = e.year.value ∧
    (d.month.value < e.month.value ∨ d.month.value = e.month.value ∧ d.day.value < e.day.value)

theorem number_lt_of_before (before : d.Before e) : d.number < e.number := by
  have positive := e.day.ge
  rcases before with years | ⟨years, months | ⟨months, days⟩⟩
  · have next := daysBeforeYear_mono (Int.add_one_le_of_lt years)
    have within := d.number_le
    simp only [number, dayNumber] at within ⊢
    omega
  · have begins : daysBeforeYear d.year.value = daysBeforeYear e.year.value := by rw [years]
    have next : daysBeforeMonth d.year.value (d.month.value + 1) ≤
        daysBeforeMonth e.year.value e.month.value := by
      rw [years]
      exact daysBeforeMonth_mono months
    have within := d.day_le
    simp only [number, dayNumber]
    omega
  · have begins : daysBeforeYear d.year.value = daysBeforeYear e.year.value := by rw [years]
    have earlier : daysBeforeMonth d.year.value d.month.value =
        daysBeforeMonth e.year.value e.month.value := by rw [years, months]
    simp only [number, dayNumber]
    omega

theorem before_or_before (different : d ≠ e) : d.Before e ∨ e.Before d := by
  by_contra neither
  simp only [Before] at neither
  exact different (eq_of_parts (by omega) (by omega) (by omega))

theorem not_before_self : ¬d.Before d := by
  simp only [Before]
  omega

/-- The numbers of days are in the order of the calendar. -/
theorem number_lt_iff : d.number < e.number ↔ d.Before e := by
  refine ⟨fun less => ?_, number_lt_of_before⟩
  have different : d ≠ e := by
    rintro rfl
    exact lt_irrefl _ less
  rcases before_or_before different with before | after
  · exact before
  · exact absurd (number_lt_of_before after) (lt_asymm less)

theorem number_of? {day : Nat} (h : of? year month day = some d) :
    d.number = dayNumber year month day := by
  obtain ⟨rfl, rfl, rfl⟩ := of?_eq_some.mp h
  rfl

theorem number_next (h : d.next? = some e) : e.number = d.number + 1 := by
  have whole := daysBeforeMonth_succ d.year.value d.month.ge
  have within := d.day.le
  unfold next? at h
  split at h
  · rw [number_of? h, number, dayNumber, dayNumber]
    omega
  · split at h
    · rw [number_of? h, number, dayNumber, dayNumber]
      omega
    · have last := d.month.le
      have december : d.month.value + 1 = 13 := by omega
      rw [december, daysBeforeMonth_thirteen] at whole
      rw [number_of? h, number, dayNumber, dayNumber, daysBeforeYear_succ, daysBeforeMonth_one]
      omega

theorem number_previous (h : d.previous? = some e) : e.number + 1 = d.number := by
  have least := d.day.ge
  have first := d.month.ge
  unfold previous? at h
  split at h
  · rw [number_of? h, number, dayNumber, dayNumber]
    omega
  · split at h
    · have whole := daysBeforeMonth_succ d.year.value (show 1 ≤ d.month.value - 1 by omega)
      rw [Nat.sub_add_cancel first] at whole
      rw [number_of? h, number, dayNumber, dayNumber]
      omega
    · have january : d.month.value = 1 := by omega
      have begins : daysBeforeMonth d.year.value d.month.value = 0 := by
        rw [january, daysBeforeMonth_one]
      have whole := daysBeforeMonth_succ (d.year.value - 1) (show 1 ≤ 12 by decide)
      have december : daysInMonth (d.year.value - 1) 12 = 31 := rfl
      have years := daysBeforeYear_succ (d.year.value - 1)
      rw [daysBeforeMonth_thirteen, december] at whole
      rw [Int.sub_add_cancel] at years
      rw [number_of? h, number, dayNumber, dayNumber]
      omega

end Date

namespace Timestamp

/-- The seconds of universal time up to the beginning of a second. -/
def seconds (t : Timestamp) : Int :=
  t.date.number * secondsPerDay + t.second.value

/-- The seconds of universal time, and within one of them the nanoseconds. -/
def instant (t : Timestamp) : Lex (Int × Nat) :=
  toLex (t.seconds, t.nano.value)

variable {a b t showing : Timestamp} {minutes : Int}

theorem key_lt_iff : a.key < b.key ↔
    a.date.Before b.date ∨ a.date = b.date ∧ (a.second.value < b.second.value ∨
      a.second.value = b.second.value ∧ a.nano.value < b.nano.value) := by
  have same : a.date = b.date ↔ a.date.year.value = b.date.year.value ∧
      a.date.month.value = b.date.month.value ∧ a.date.day.value = b.date.day.value :=
    ⟨fun same => same ▸ ⟨rfl, rfl, rfl⟩, fun ⟨years, months, days⟩ => Date.eq_of_parts years months days⟩
  simp only [key, List.cons_lt_cons_iff, List.not_lt_nil, and_false, or_false, Date.Before, same]
  omega

theorem instant_lt_iff : a.instant < b.instant ↔
    a.date.Before b.date ∨ a.date = b.date ∧ (a.second.value < b.second.value ∨
      a.second.value = b.second.value ∧ a.nano.value < b.nano.value) := by
  have early := a.second_lt
  have late := b.second_lt
  rw [instant, instant, Prod.Lex.lt_iff]
  simp only [ofLex_toLex, seconds]
  unfold secondsPerDay at *
  by_cases same : a.date = b.date
  · simp only [same, Date.not_before_self, false_or, true_and]
    omega
  · have one := Date.before_or_before same
    simp only [← Date.number_lt_iff] at one ⊢
    simp only [same, false_and, or_false]
    omega

/-- Timestamps are ordered as their instants are. -/
theorem le_iff_instant_le : a.le b = true ↔ a.instant ≤ b.instant := by
  rw [le, Bool.not_eq_true', decide_eq_false_iff_not, key_lt_iff, ← instant_lt_iff, not_lt]

/-- A clock that is ahead of universal time shows the instant with so many minutes more. -/
theorem seconds_ofLocal (day : minutes.natAbs < Reader.minutesPerDay) (h : ofLocal? showing minutes = some t) :
    t.seconds = showing.seconds - minutes * 60 ∧ t.nano.value = showing.nano.value := by
  have shown := showing.second_lt
  unfold Reader.minutesPerDay at day
  simp only [ofLocal?] at h
  unfold seconds
  unfold secondsPerDay at *
  split at h
  · obtain ⟨earlier, found, made⟩ := Option.bind_eq_some_iff.mp h
    obtain ⟨rfl, second, nano⟩ := of?_eq_some.mp made
    have number := Date.number_previous found
    exact ⟨by omega, nano⟩
  · split at h
    · obtain ⟨later, found, made⟩ := Option.bind_eq_some_iff.mp h
      obtain ⟨rfl, second, nano⟩ := of?_eq_some.mp made
      have number := Date.number_next found
      exact ⟨by omega, nano⟩
    · obtain ⟨same, second, nano⟩ := of?_eq_some.mp h
      rw [same]
      exact ⟨by omega, nano⟩

/-- The instant that fields name: what they show, less the zone. The sixtieth second is the one before it, with
the nanoseconds of that one passed. -/
def Reader.Fields.universal (f : Reader.Fields) : Lex (Int × Nat) :=
  toLex (Date.dayNumber f.year f.month f.day * secondsPerDay +
      f.hour * 3600 + f.minute * 60 + (if f.second = 60 then 59 else f.second : Nat) - f.offset * 60,
    (if f.second = 60 then nanosPerSecond else 0) + f.nano)

theorem Reader.Fields.instant_universal {f : Reader.Fields} (h : f.instant = .ok t) :
    t.instant = f.universal := by
  simp only [Reader.Fields.instant] at h
  split at h
  · rename_i date made
    split at h
    · rename_i showing shown
      split at h
      · cases h
      · rename_i day
        split at h
        · rename_i found
          cases h
          obtain ⟨rfl, second, nano⟩ := of?_eq_some.mp shown
          obtain ⟨seconds, nanos⟩ := seconds_ofLocal (Nat.lt_of_not_le day) found
          rw [Timestamp.instant, universal, seconds, nanos, Timestamp.seconds, Date.number_of? made]
          congr 2
          · rw [second]
            push_cast
            omega
          · exact nano.trans (Nat.add_comm _ _)
        · cases h
    · cases h
  · cases h

theorem number_dateInYear {year : Int} {days months month : Nat} (first : 1 ≤ month) {d : Date}
    (h : dateInYear? year days month months = some d) :
    d.number = Date.daysBeforeYear year + Date.daysBeforeMonth year month + days + 1 := by
  induction months generalizing days month with
  | zero =>
      rw [Date.number_of? h, Date.dayNumber]
      omega
  | succ months ih =>
      simp only [dateInYear?] at h
      split at h
      · rw [Date.number_of? h, Date.dayNumber]
        omega
      · have whole := Date.daysBeforeMonth_succ year first
        rw [ih (by omega) h]
        omega

theorem number_dateFrom {year : Int} {days years : Nat} {d : Date} (h : dateFrom? year days years = some d) :
    d.number = Date.daysBeforeYear year + days + 1 := by
  have inYear {year : Int} {days : Nat} (h : dateInYear? year days 1 11 = some d) :
      d.number = Date.daysBeforeYear year + days + 1 := by
    rw [number_dateInYear le_rfl h, Date.daysBeforeMonth_one]
    omega
  induction years generalizing year days with
  | zero => exact inYear h
  | succ years ih =>
      simp only [dateFrom?] at h
      split at h
      · exact inYear h
      · rw [ih h, Date.daysBeforeYear_succ]
        omega

/-- A clock counts on from the beginning of 1970. -/
theorem instant_ofEpoch {ms : Nat} (h : ofEpoch? ms = some t) : t.instant =
    toLex (Date.number ⟨1970, 1, 1⟩ * secondsPerDay + (ms / 1000 : Nat), ms % 1000 * 1000000) := by
  obtain ⟨date, found, made⟩ := Option.bind_eq_some_iff.mp h
  obtain ⟨rfl, second, nano⟩ := of?_eq_some.mp made
  have begins : Date.number ⟨1970, 1, 1⟩ = Date.daysBeforeYear 1970 + 1 := rfl
  have days := number_dateFrom found
  have counted : t.seconds = Date.number ⟨1970, 1, 1⟩ * secondsPerDay + (ms / 1000 : Nat) := by
    rw [seconds, days, begins, second]
    unfold secondsPerDay
    omega
  rw [instant, counted, nano]

/-- The instant of a timestamp that was read is the one that its text names. -/
theorem instant_of_readRelaxed {text : String} (h : readRelaxed text = .ok t) :
    ∃ fields rest, Reader.relaxedFields text.toList = .ok (fields, rest) ∧
      t.instant = fields.universal := by
  simp only [readRelaxed, bind_eq_ok] at h
  obtain ⟨⟨fields, rest⟩, read, h⟩ := h
  split at h
  · cases h
  · exact ⟨fields, rest, read, Reader.Fields.instant_universal h⟩

end Timestamp

end Dossier
