import Dossier.Number.Binary64
import Dossier.Number.Digits

/-! # Decimal literals

Reading a decimal literal as the nearest binary number.
-/

namespace Dossier.Number

/-- Past this order of magnitude, on either side, a decimal is infinite or zero. -/
def extremeOrder : Int := 400

/-- The number nearest to `significand * 10 ^ exponent`. An exponent beyond all numbers is decided by
the order of magnitude alone, so that no power is computed in vain. -/
def nearestDecimal (negative : Bool) (significand : Nat) (exponent : Int) : Binary64 :=
  if significand = 0 then .finite negative 0 Binary64.leastExponent
  else
    let order := exponent + (decimalDigits significand).length
    if extremeOrder < order then .infinite negative
    else if order < -extremeOrder then .finite negative 0 Binary64.leastExponent
    else match exponent with
      | .ofNat n => .nearest negative (significand * 10 ^ n) 1
      | .negSucc n => .nearest negative significand (10 ^ (n + 1))

/-- The part of a literal behind its sign: digits with an optional point among or around them, and an
optional exponent. -/
def readUnsigned? (negative : Bool) (s : List Char) : Option Binary64 :=
  let whole := s.takeWhile isDigit
  let rest := s.dropWhile isDigit
  let (fraction, rest) := match rest with
    | '.' :: after => (after.takeWhile isDigit, after.dropWhile isDigit)
    | _ => ([], rest)
  if whole.isEmpty && fraction.isEmpty then none
  else
    let significand := ofDigits (whole ++ fraction)
    let finish (exponent : Int) := nearestDecimal negative significand (exponent - fraction.length)
    match rest with
    | [] => some (finish 0)
    | 'e' :: exponent | 'E' :: exponent => (readInt? exponent).map finish
    | _ => none

/-- A literal for what is infinite or not a number, in any case of letters. -/
def readSpecial? (negative : Bool) (s : List Char) : Option Binary64 :=
  match String.ofList (s.map Char.toLower) with
  | "inf" | "infinity" => some (.infinite negative)
  | "nan" => some .nan
  | _ => none

/-- The number nearest to a decimal literal with an optional sign. -/
def readReal? : List Char → Option Binary64
  | '-' :: s => readSpecial? true s <|> readUnsigned? true s
  | '+' :: s => readSpecial? false s <|> readUnsigned? false s
  | s => readSpecial? false s <|> readUnsigned? false s

end Dossier.Number
