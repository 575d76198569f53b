import Dossier.Timestamp.Basic

/-! # Clocks

The instant that a clock shows which counts milliseconds from the beginning of 1970.
-/

namespace Dossier.Timestamp

def daysInYear (year : Int) : Nat :=
  if Date.isLeapYear year then 366 else 365

/-- The date so many days after the first of a month, if the calendar has it. -/
def dateInYear? (year : Int) (days : Nat) : Nat → Nat → Option Date
  | month, 0 => Date.of? year month (days + 1)
  | month, months + 1 =>
      let length := Date.daysInMonth year month
      if days < length then Date.of? year month (days + 1)
      else dateInYear? year (days - length) (month + 1) months

/-- The date so many days after the first of a year, at most so many years later. -/
def dateFrom? (year : Int) (days : Nat) : Nat → Option Date
  | 0 => dateInYear? year days 1 11
  | years + 1 =>
      if days < daysInYear year then dateInYear? year days 1 11
      else dateFrom? (year + 1) (days - daysInYear year) years

/-- The instant so many milliseconds after the beginning of 1970, if it is within the calendar. -/
def ofEpoch? (ms : Nat) : Option Timestamp := do
  let days := ms / 1000 / secondsPerDay
  of? (← dateFrom? 1970 days days) (ms / 1000 % secondsPerDay) (ms % 1000 * 1000000)

end Dossier.Timestamp
