import Dossier.Number.Literal
import Dossier.Timestamp.Date
import Dossier.Toml.Value

/-! # TOML scalars

Values without quotes or brackets: booleans, integers of 64 bits in four bases, floating point numbers,
and points in time. Digits may be grouped by single underscores.
-/

namespace Dossier.Toml

open Number

/-- The digits of a grouped number, without the underscores between them. -/
def ungroup (digit : Char → Bool) : List Char → Option (List Char)
  | [] => none
  | [c] => if digit c then some [c] else none
  | c :: '_' :: rest => if digit c then (ungroup digit rest).map (c :: ·) else none
  | c :: rest => if digit c then (ungroup digit rest).map (c :: ·) else none

/-- The sign in front of a number, if it is a minus, and the rest. -/
def splitSign : List Char → Bool × List Char
  | '-' :: rest => (true, rest)
  | '+' :: rest => (false, rest)
  | rest => (false, rest)

/-- The digits of a number without zeros in front. -/
def wholeDigits? (s : List Char) : Option (List Char) :=
  match ungroup isDigit s with
  | some ['0'] => some ['0']
  | some ('0' :: _) => none
  | digits => digits

def ofBase (base : Nat) (digits : List Char) : Nat :=
  digits.foldl (fun n c => base * n + (hexValue? c).getD 0) 0

def isDigitOf (base : Nat) (c : Char) : Bool :=
  (hexValue? c).any (· < base)

/-- An integer, if it fits a word of 64 bits with sign. -/
def fitting (n : Int) : Option Toml :=
  if Number.fitsWord n then some (.whole n) else none

def readWhole? (s : List Char) : Option Toml :=
  match s with
  | '0' :: 'x' :: rest => (ungroup (isDigitOf 16) rest).bind fun ds => fitting (ofBase 16 ds)
  | '0' :: 'o' :: rest => (ungroup (isDigitOf 8) rest).bind fun ds => fitting (ofBase 8 ds)
  | '0' :: 'b' :: rest => (ungroup (isDigitOf 2) rest).bind fun ds => fitting (ofBase 2 ds)
  | _ =>
      let (negative, rest) := splitSign s
      (wholeDigits? rest).bind fun ds =>
        fitting (if negative then -(ofDigits ds : Int) else ofDigits ds)

/-- The exponent of a floating point number, with its letter. -/
def exponent? : List Char → Option (List Char)
  | [] => some []
  | e :: rest =>
      if e = 'e' ∨ e = 'E' then
        let (negative, digits) := splitSign rest
        (ungroup isDigit digits).map fun ds => 'e' :: (if negative then ['-'] else []) ++ ds
      else none

/-- The fraction and the exponent of a floating point number, which cannot both be missing. -/
def fractional? : List Char → Option (List Char)
  | [] => none
  | '.' :: rest => do
      let isExponent (c : Char) := c == 'e' || c == 'E'
      let digits ← ungroup isDigit (rest.takeWhile fun c => !isExponent c)
      let exponent ← exponent? (rest.dropWhile fun c => !isExponent c)
      return '.' :: digits ++ exponent
  | rest => exponent? rest

/-- A floating point number. Numbers too great for one are refused. -/
def readReal? (s : List Char) : Option Toml :=
  let (negative, rest) := splitSign s
  if rest = ['i', 'n', 'f'] then some (.real (.infinite negative))
  else if rest = ['n', 'a', 'n'] then some (.real .nan)
  else do
    let inWhole (c : Char) := isDigit c || c == '_'
    let whole ← wholeDigits? (rest.takeWhile inWhole)
    let fraction ← fractional? (rest.dropWhile inWhole)
    let number ← Number.readReal? ((if negative then ['-'] else []) ++ whole ++ fraction)
    if number.isInfinite then none else some (.real number)

def two? : List Char → Option (Nat × List Char)
  | a :: b :: rest => if isDigit a && isDigit b then some (ofDigits [a, b], rest) else none
  | _ => none

def readDate? : List Char → Option (List Char × List Char)
  | a :: b :: c :: d :: '-' :: rest => do
      let year ← readDigits? [a, b, c, d]
      let (month, rest) ← two? rest
      match rest with
      | '-' :: rest =>
          let (day, rest) ← two? rest
          if Date.IsValid year month day then
            some ([a, b, c, d, '-'] ++ paddedDigits 2 month ++ '-' :: paddedDigits 2 day, rest)
          else none
      | _ => none
  | _ => none

/-- A fraction of a second, of which nine digits are kept without the zeros behind them. -/
def readFraction? : List Char → Option (List Char × List Char)
  | '.' :: rest =>
      let digits := rest.takeWhile isDigit
      let kept := ((digits.take 9).reverse.dropWhile (· == '0')).reverse
      if digits.isEmpty then none
      else some ('.' :: (if kept.isEmpty then ['0'] else kept), rest.dropWhile isDigit)
  | rest => some ([], rest)

/-- A time of day, with or without seconds, and the text behind it. -/
def readTime? (s : List Char) : Option (List Char × List Char) := do
  let (hour, rest) ← two? s
  match rest with
  | ':' :: rest =>
      let (minute, rest) ← two? rest
      if 23 < hour ∨ 59 < minute then none
      else
        let start := paddedDigits 2 hour ++ ':' :: paddedDigits 2 minute
        match rest with
        | ':' :: rest =>
            let (second, rest) ← two? rest
            let (fraction, rest) ← readFraction? rest
            if 60 < second then none
            else some (start ++ ':' :: paddedDigits 2 second ++ fraction, rest)
        | _ => some (start, rest)
  | _ => none

def readZone? : List Char → Option (List Char)
  | [] => some []
  | ['Z'] | ['z'] => some ['Z']
  | sign :: rest => do
      let (hour, rest) ← two? rest
      match rest with
      | ':' :: rest =>
          let (minute, rest) ← two? rest
          if (sign = '+' ∨ sign = '-') ∧ hour ≤ 23 ∧ minute ≤ 59 ∧ rest.isEmpty then
            some (sign :: paddedDigits 2 hour ++ ':' :: paddedDigits 2 minute)
          else none
      | _ => none

/-- A point in time: a date, a time of day, or both, perhaps with a zone. -/
def readMoment? (s : List Char) : Option Toml :=
  match readDate? s with
  | some (date, []) => some (.moment (String.ofList date))
  | some (date, separator :: rest) =>
      if separator = 'T' ∨ separator = 't' ∨ separator = ' ' then do
        let (time, rest) ← readTime? rest
        let zone ← readZone? rest
        some (.moment (String.ofList (date ++ 'T' :: time ++ zone)))
      else none
  | none => match readTime? s with
    | some (time, []) => some (.moment (String.ofList time))
    | _ => none

/-- A value without quotes or brackets. -/
def readScalar? (s : List Char) : Option Toml :=
  if s = ['t', 'r', 'u', 'e'] then some (.bool true)
  else if s = ['f', 'a', 'l', 's', 'e'] then some (.bool false)
  else readWhole? s <|> readReal? s <|> readMoment? s

end Dossier.Toml
