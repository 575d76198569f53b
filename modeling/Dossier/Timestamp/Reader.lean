import Dossier.Json.Decode
import Dossier.Text.Blank
import Dossier.Timestamp.Basic

/-! # Reading timestamps

Two readers of RFC 3339. The strict one wants every field in its width. The relaxed one takes years
with a sign and any number of digits, fields of one digit, and blanks in front of fields, separators
and the zone. Both keep leap seconds, drop digits past the ninth of a fraction, and take a zone of
less than a day.
-/

namespace Dossier.Timestamp

inductive ReadFault where
  /-- It ends too early. -/
  | tooShort
  | invalid
  /-- There is no such date, time or zone. -/
  | outOfRange
  /-- The instant is outside of the calendar. -/
  | impossible
  /-- Something follows it. -/
  | tooLong
  deriving Repr, DecidableEq

def ReadFault.message : ReadFault → String
  | .tooShort => "premature end of input"
  | .invalid => "input contains invalid characters"
  | .outOfRange => "input is out of range"
  | .impossible => "no possible date and time matching input"
  | .tooLong => "trailing input"

namespace Reader

open Number

def byteCount (s : List Char) : Nat :=
  s.foldl (fun n c => n + c.utf8Size) 0

/-- A number of at least `least` digits; no more than `most` are taken. -/
def number (least : Nat) (most : Option Nat) (s : List Char) :
    Except ReadFault (Nat × List Char) :=
  if byteCount s < least then .error .tooShort
  else
    let digits := match most with
      | none => s.takeWhile isDigit
      | some most => (s.take most).takeWhile isDigit
    if digits.length < least then .error .invalid
    else .ok (ofDigits digits, s.drop digits.length)

def bounded (low high : Nat) (step : Except ReadFault (Nat × List Char)) :
    Except ReadFault (Nat × List Char) := do
  let (n, rest) ← step
  if n < low ∨ high < n then throw .outOfRange
  return (n, rest)

def literal (c : Char) : List Char → Except ReadFault (List Char)
  | [] => .error .tooShort
  | d :: rest => if d = c then .ok rest else .error .invalid

/-- The letter or blank between date and time. -/
def separator : List Char → Except ReadFault (List Char)
  | [] => .error .tooShort
  | c :: rest => if c = 'T' ∨ c = 't' ∨ c = ' ' then .ok rest else .error .invalid

/-- The greatest year that is told from greater ones. -/
def greatestYear : Nat := 0x7FFFFFFF

/-- A year of at most four digits, or of any number of them behind a sign. -/
def signedYear : List Char → Except ReadFault (Int × List Char)
  | '-' :: s => do
      let (n, rest) ← bounded 0 (greatestYear + 1) (number 1 none s)
      return (-n, rest)
  | '+' :: s => do
      let (n, rest) ← bounded 0 greatestYear (number 1 none s)
      return (n, rest)
  | s => do
      let (n, rest) ← number 1 (some 4) s
      return (n, rest)

/-- The fraction of a second in nanoseconds, if a point introduces one. -/
def fraction : List Char → Except ReadFault (Nat × List Char)
  | '.' :: s => do
      let (n, rest) ← number 1 (some 9) s
      let count := s.length - rest.length
      return (n * 10 ^ (9 - count), rest.dropWhile isDigit)
  | s => .ok (0, s)

/-- Two digits, of which the first is at most `most`. -/
def pair (most : Char) (s : List Char) : Except ReadFault (Nat × List Char) :=
  if byteCount s < 2 then .error .tooShort
  else match s with
    | a :: b :: rest =>
        if isDigit a && isDigit b then
          if a ≤ most then .ok (ofDigits [a, b], rest) else .error .outOfRange
        else .error .invalid
    | _ => .error .invalid

/-- The zone in minutes: a letter, or a signed number of hours and minutes with `colon` between. -/
def zone (colon : List Char → Except ReadFault (List Char)) (s : List Char) :
    Except ReadFault (Int × List Char) :=
  match s with
  | [] => .error .tooShort
  | c :: rest =>
      if c = 'Z' ∨ c = 'z' then .ok (0, rest)
      else if c = '+' ∨ c = '-' ∨ c = '\u2212' then do
        let (hours, rest) ← pair '9' rest
        let rest ← colon rest
        let (minutes, rest) ← pair '5' rest
        let ahead : Int := hours * 60 + minutes
        return (if c = '+' then ahead else -ahead, rest)
      else .error .invalid

/-- What may stand between the hours and the minutes of a relaxed zone. -/
def colonOrBlanks (s : List Char) : Except ReadFault (List Char) :=
  .ok (s.dropWhile fun c => c == ':' || Text.isBlank c)

/-- The fields of a timestamp as they are written. -/
structure Fields where
  year : Int
  month : Nat
  day : Nat
  hour : Nat
  minute : Nat
  second : Nat
  nano : Nat
  /-- The minutes by which the zone is ahead of universal time. -/
  offset : Int

def minutesPerDay : Nat := 1440

/-- The instant that fields mean. The sixtieth second of a minute is a leap second. -/
def Fields.instant (f : Fields) : Except ReadFault Timestamp := do
  let leap := f.second = 60
  let second := f.hour * 3600 + f.minute * 60 + if leap then 59 else f.second
  let nano := f.nano + if leap then nanosPerSecond else 0
  let some date := Date.of? f.year f.month f.day | throw .outOfRange
  let some showing := of? date second nano | throw .outOfRange
  if minutesPerDay ≤ f.offset.natAbs then throw .outOfRange
  let some t := ofLocal? showing f.offset | throw .impossible
  return t

def relaxedFields (s : List Char) : Except ReadFault (Fields × List Char) := do
  let blank := Text.trimStart
  let (year, s) ← signedYear (blank s)
  let s ← literal '-' (blank s)
  let (month, s) ← bounded 1 12 (number 1 (some 2) (blank s))
  let s ← literal '-' (blank s)
  let (day, s) ← bounded 1 31 (number 1 (some 2) (blank s))
  let s ← separator s
  let (hour, s) ← bounded 0 23 (number 1 (some 2) (blank s))
  let s ← literal ':' (blank s)
  let (minute, s) ← bounded 0 59 (number 1 (some 2) (blank s))
  let s ← literal ':' (blank s)
  let (second, s) ← bounded 0 60 (number 1 (some 2) (blank s))
  let (nano, s) ← fraction s
  let s := blank s
  let named := (s.take 3).map Char.toUpper = ['U', 'T', 'C']
  let (offset, s) ← if named then .ok (0, s.drop 3) else zone colonOrBlanks s
  return ({ year, month, day, hour, minute, second, nano, offset }, s)

/-- A number of exactly so many digits. -/
def figures (count : Nat) (s : List Char) : Except ReadFault (Nat × List Char) :=
  let digits := s.take count
  if digits.length = count && digits.all isDigit then .ok (ofDigits digits, s.drop count)
  else .error .invalid

/-- The bytes of a strict timestamp up to its seconds, less than which no timestamp has. -/
def leastBytes : Nat := 19

def strictFields (s : List Char) : Except ReadFault (Fields × List Char) := do
  if byteCount s < leastBytes then throw .tooShort
  let (year, s) ← figures 4 s
  let s ← literal '-' s
  let (month, s) ← figures 2 s
  let s ← literal '-' s
  let (day, s) ← figures 2 s
  if ¬Date.IsValid year month day then throw .outOfRange
  let s ← separator s
  let (hour, s) ← figures 2 s
  let s ← literal ':' s
  let (minute, s) ← figures 2 s
  let s ← literal ':' s
  let (second, s) ← figures 2 s
  let (nano, s) ← fraction s
  if 23 < hour ∨ 59 < minute ∨ 60 < second then throw .outOfRange
  let (offset, s) ← zone (literal ':') s
  return ({ year, month, day, hour, minute, second, nano, offset }, s)

end Reader

def readRelaxed (s : String) : Except ReadFault Timestamp := do
  let (fields, rest) ← Reader.relaxedFields s.toList
  if !(Text.trimStart rest).isEmpty then throw .tooLong
  fields.instant

def readStrict (s : String) : Except ReadFault Timestamp := do
  let (fields, rest) ← Reader.strictFields s.toList
  if !rest.isEmpty then throw .tooLong
  fields.instant

def decode : Json.Decoder Timestamp :=
  Json.decodeText "an RFC 3339 formatted date and time string" fun s =>
    (readRelaxed s).mapError fun fault => .malformed fault.message

end Dossier.Timestamp
