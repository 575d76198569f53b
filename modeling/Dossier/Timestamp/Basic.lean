import Dossier.Number.Digits
import Dossier.Timestamp.Date

/-! # Timestamps

Instants of universal time to the nanosecond. A leap second is kept as the second in front of it with
a thousand million nanoseconds and more, so that it comes after that second and before the next
minute.
-/

namespace Dossier

namespace Timestamp

def nanosPerSecond : Nat := 1000000000

def secondsPerDay : Nat := 86400

/-- The greatest nanosecond within a second of the day. Only the last second of a minute may be followed by a leap
second. -/
def lastNano (second : Nat) : Nat :=
  if second % 60 = 59 then 1999999999 else 999999999

end Timestamp

/-- An instant of universal time. -/
structure Timestamp where
  date : Date
  /-- The second of the day. -/
  second : Number.Bounded 0 86399
  /-- The nanosecond of the second; within a leap second it is counted on past `10 ^ 9`. -/
  nano : Number.Bounded 0 (Timestamp.lastNano second.value)
  deriving Repr, DecidableEq

namespace Timestamp

/-- The instant at this second and nanosecond of a date, if there is one. -/
def of? (date : Date) (second nano : Nat) : Option Timestamp :=
  if fits : second ≤ 86399 ∧ nano ≤ lastNano second then
    some ⟨date, ⟨second, Nat.zero_le _, fits.1⟩, ⟨nano, Nat.zero_le _, fits.2⟩⟩
  else none

/-- The parts of a timestamp, the weightiest first. -/
def key (t : Timestamp) : List Int :=
  [t.date.year.value, t.date.month.value, t.date.day.value, t.second.value, t.nano.value]

/-- Whether an instant is not after another. -/
def le (a b : Timestamp) : Bool :=
  !(b.key < a.key)

/-- The instant whose clock, so many minutes ahead of universal time, shows a local one; `none` if it
lies outside of the calendar. -/
def ofLocal? (showing : Timestamp) (minutes : Int) : Option Timestamp := do
  let second : Int := showing.second.value - minutes * 60
  if second < 0 then
    of? (← showing.date.previous?) (second + secondsPerDay).toNat showing.nano.value
  else if (secondsPerDay : Int) ≤ second then
    of? (← showing.date.next?) (second - secondsPerDay).toNat showing.nano.value
  else of? showing.date second.toNat showing.nano.value

/-- A year in four digits, or with its sign if it has more or lies before the year zero. -/
def yearText (year : Int) : List Char :=
  if 0 ≤ year ∧ year ≤ 9999 then Number.paddedDigits 4 year.toNat
  else (if year < 0 then '-' else '+') :: Number.paddedDigits 4 year.natAbs

/-- A fraction of a second in as few groups of three digits as are exact. -/
def fractionText (nano : Nat) : List Char :=
  if nano = 0 then []
  else if nano % 1000000 = 0 then '.' :: Number.paddedDigits 3 (nano / 1000000)
  else if nano % 1000 = 0 then '.' :: Number.paddedDigits 6 (nano / 1000)
  else '.' :: Number.paddedDigits 9 nano

/-- Date and time of day without a zone. -/
def print (t : Timestamp) : List Char :=
  let leap := nanosPerSecond ≤ t.nano.value
  let second := t.second.value % 60 + if leap then 1 else 0
  let nano := if leap then t.nano.value - nanosPerSecond else t.nano.value
  yearText t.date.year.value ++ '-' :: Number.paddedDigits 2 t.date.month.value ++
    '-' :: Number.paddedDigits 2 t.date.day.value ++
    'T' :: Number.paddedDigits 2 (t.second.value / 3600) ++
    ':' :: Number.paddedDigits 2 (t.second.value / 60 % 60) ++
    ':' :: Number.paddedDigits 2 second ++ fractionText nano

/-- The text in messages, in which the zone is a letter. -/
def text (t : Timestamp) : String :=
  String.ofList (t.print ++ ['Z'])

/-- The text in tables, in which the zone is a number. -/
def storedText (t : Timestamp) : String :=
  String.ofList (t.print ++ ['+', '0', '0', ':', '0', '0'])

end Timestamp

end Dossier
