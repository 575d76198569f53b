import Dossier.Number.Shortest

/-! # Layouts of decimals

How the shortest decimal of a number is put into text. What differs between formats is kept in one
record; the digits are the same in all.
-/

namespace Dossier.Number

/-- The decisions of a format that writes decimals. -/
structure Layout where
  /-- The orders of magnitude, both included, that are written without an exponent; all, if none. -/
  positional : Option (Int × Int)
  /-- Whether a whole number written without an exponent ends in `.0`. -/
  pointZero : Bool

namespace Layout

def plain (l : Layout) (d : Decimal) : List Char :=
  if d.order < 0 then
    '0' :: '.' :: List.replicate (-d.order - 1).toNat '0' ++ d.digits
  else
    let whole := d.order.toNat + 1
    let fraction := d.digits.drop whole
    d.digits.take whole ++ List.replicate (whole - d.digits.length) '0' ++
      if !fraction.isEmpty then '.' :: fraction
      else if l.pointZero then ['.', '0'] else []

/-- A decimal with one digit before the point and an exponent, whose sign is always written. -/
def scientific (d : Decimal) : List Char :=
  let fraction := d.digits.drop 1
  d.digits.take 1 ++ (if fraction.isEmpty then [] else '.' :: fraction) ++
    ['e', if d.order < 0 then '-' else '+'] ++ decimalDigits d.order.natAbs

def decimalText (l : Layout) (d : Decimal) : List Char :=
  match l.positional with
  | none => l.plain d
  | some (least, most) => if least ≤ d.order ∧ d.order ≤ most then l.plain d else scientific d

def text (l : Layout) : Binary64 → String
  | .nan => "NaN"
  | .infinite negative => if negative then "-inf" else "inf"
  | .finite negative significand exponent =>
      let sign := if negative then ['-'] else []
      if significand = 0 then String.ofList (sign ++ '0' :: if l.pointZero then ['.', '0'] else [])
      else String.ofList (sign ++ l.decimalText (.shortest significand exponent))

/-- The layout that never uses an exponent and leaves whole numbers without a point. -/
def bare : Layout := ⟨none, false⟩

end Layout

end Dossier.Number
