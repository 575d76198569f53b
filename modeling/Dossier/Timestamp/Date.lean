import Dossier.Number.Bounded

/-! # Dates

Dates of the Gregorian calendar, extended to all years that a timestamp can have. A time zone moves a
timestamp by less than a day, so the day before and the day after are all the arithmetic there is.
-/

namespace Dossier

namespace Date

def firstYear : Int := -262143

def lastYear : Int := 262142

def isLeapYear (year : Int) : Bool :=
  year % 4 == 0 && (year % 100 != 0 || year % 400 == 0)

def daysInMonth (year : Int) (month : Nat) : Nat :=
  if month = 2 then if isLeapYear year then 29 else 28
  else if month = 4 ∨ month = 6 ∨ month = 9 ∨ month = 11 then 30
  else 31

theorem daysInMonth_bounds (year : Int) (month : Nat) :
    28 ≤ daysInMonth year month ∧ daysInMonth year month ≤ 31 := by
  unfold daysInMonth
  split
  · split <;> decide
  · split <;> decide

/-- The calendar has a date with these numbers. -/
structure IsValid (year : Int) (month day : Nat) : Prop where
  first : firstYear ≤ year
  last : year ≤ lastYear
  january : 1 ≤ month
  december : month ≤ 12
  least : 1 ≤ day
  most : day ≤ daysInMonth year month

instance (year : Int) (month day : Nat) : Decidable (IsValid year month day) :=
  decidable_of_iff ((firstYear ≤ year ∧ year ≤ lastYear) ∧ (1 ≤ month ∧ month ≤ 12) ∧
      1 ≤ day ∧ day ≤ daysInMonth year month)
    ⟨fun ⟨⟨first, last⟩, ⟨january, december⟩, least, most⟩ => ⟨first, last, january, december, least, most⟩,
      fun valid => ⟨⟨valid.first, valid.last⟩, ⟨valid.january, valid.december⟩, valid.least, valid.most⟩⟩

/-- A year of the calendar. -/
@[ext]
structure Year where
  value : Int
  first : firstYear ≤ value
  last : value ≤ lastYear
  deriving Repr, DecidableEq

/-- A literal past the last year stands for that year. -/
instance (n : Nat) : OfNat Year n where
  ofNat := ⟨min n lastYear, by unfold firstYear lastYear; omega, Int.min_le_right ..⟩

abbrev Month := Number.Bounded 1 12

instance : Number.Bounded.Proper 1 12 :=
  ⟨by decide⟩

/-- A day of a month. -/
abbrev Day (year : Year) (month : Month) := Number.Bounded 1 (daysInMonth year.value month.value)

instance (year : Int) (month : Nat) : Number.Bounded.Proper 1 (daysInMonth year month) :=
  ⟨Nat.le_trans (by decide) (daysInMonth_bounds year month).1⟩

end Date

structure Date where
  year : Date.Year
  month : Date.Month
  day : Date.Day year month
  deriving Repr, DecidableEq

namespace Date

/-- The date with these numbers, if the calendar has it. -/
def of? (year : Int) (month day : Nat) : Option Date :=
  if valid : IsValid year month day then
    some ⟨⟨year, valid.first, valid.last⟩, ⟨month, valid.january, valid.december⟩, ⟨day, valid.least, valid.most⟩⟩
  else none

/-- The next day, unless the calendar ends. -/
def next? (d : Date) : Option Date :=
  if d.day.value < daysInMonth d.year.value d.month.value then of? d.year.value d.month.value (d.day.value + 1)
  else if d.month.value < 12 then of? d.year.value (d.month.value + 1) 1
  else of? (d.year.value + 1) 1 1

/-- The day before, unless the calendar begins. -/
def previous? (d : Date) : Option Date :=
  if 1 < d.day.value then of? d.year.value d.month.value (d.day.value - 1)
  else if 1 < d.month.value then
    of? d.year.value (d.month.value - 1) (daysInMonth d.year.value (d.month.value - 1))
  else of? (d.year.value - 1) 12 31

end Date

end Dossier
