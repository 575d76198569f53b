import Dossier.Timestamp.Basic

/-! # The parts of a timestamp

A date is one with its numbers, and an instant with its date and its second and nanosecond. Nanoseconds are counted
on within the last second of a minute alone. Main statements: `Date.of?_eq_some` and `Timestamp.of?_eq_some`.
-/

namespace Dossier

namespace Date

variable {d e : Date} {year : Int} {month day : Nat}

theorem isValid (d : Date) : IsValid d.year.value d.month.value d.day.value :=
  ⟨d.year.first, d.year.last, d.month.ge, d.month.le, d.day.ge, d.day.le⟩

/-- A date is made just from its numbers. -/
theorem of?_eq_some :
    of? year month day = some d ↔ d.year.value = year ∧ d.month.value = month ∧ d.day.value = day := by
  unfold of?
  split
  · constructor
    · intro made
      cases made
      exact ⟨rfl, rfl, rfl⟩
    · rintro ⟨rfl, rfl, rfl⟩
      rfl
  · rename_i invalid
    constructor
    · intro made
      cases made
    · rintro ⟨rfl, rfl, rfl⟩
      exact absurd d.isValid invalid

theorem of?_self (d : Date) : of? d.year.value d.month.value d.day.value = some d :=
  of?_eq_some.mpr ⟨rfl, rfl, rfl⟩

/-- Dates with the same numbers are the same. -/
theorem eq_of_parts (years : d.year.value = e.year.value) (months : d.month.value = e.month.value)
    (days : d.day.value = e.day.value) : d = e :=
  Option.some.inj ((of?_eq_some.mpr ⟨years, months, days⟩).symm.trans (of?_self e))

end Date

namespace Timestamp

variable {t : Timestamp} {date : Date} {second nano : Nat}

theorem second_lt (t : Timestamp) : t.second.value < secondsPerDay :=
  Nat.lt_succ_of_le t.second.le

theorem nano_cases (t : Timestamp) :
    t.nano.value < nanosPerSecond ∨ t.second.value % 60 = 59 ∧ t.nano.value < 2 * nanosPerSecond := by
  have most := t.nano.le
  unfold nanosPerSecond
  unfold lastNano at most
  split at most
  · rename_i last
    exact .inr ⟨last, by omega⟩
  · exact .inl (by omega)

/-- An instant is made just from its parts. -/
theorem of?_eq_some :
    of? date second nano = some t ↔ t.date = date ∧ t.second.value = second ∧ t.nano.value = nano := by
  unfold of?
  split
  · constructor
    · intro made
      cases made
      exact ⟨rfl, rfl, rfl⟩
    · rintro ⟨rfl, rfl, rfl⟩
      rfl
  · rename_i unfit
    constructor
    · intro made
      cases made
    · rintro ⟨rfl, rfl, rfl⟩
      exact absurd ⟨t.second.le, t.nano.le⟩ unfit

theorem of?_self (t : Timestamp) : of? t.date t.second.value t.nano.value = some t :=
  of?_eq_some.mpr ⟨rfl, rfl, rfl⟩

end Timestamp

end Dossier
