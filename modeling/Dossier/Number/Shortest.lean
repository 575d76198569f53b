import Dossier.Number.Binary64
import Dossier.Number.Digits

/-! # Shortest decimals

The decimal that stands for a binary number: of those that read back as the number the ones with the
fewest digits, and of these the nearest.

For 1, 2, … digits the two neighbours of the value on that decimal grid are tried against the
interval of reals that round to the number. If any point of a grid is in the interval, so is one of
the two neighbours, and seventeen digits always suffice.
-/

namespace Dossier.Number

/-- A positive decimal: the digits of a whole number, and the power of ten of the first of them. -/
structure Decimal where
  digits : List Char
  order : Int
  deriving Repr, DecidableEq, Inhabited

namespace Decimal

/-- The greatest power of ten that a positive ratio reaches. -/
def decimalOrder (num den : Nat) : Int :=
  if den ≤ num then (decimalDigits (num / den)).length - 1
  else
    let count := (decimalDigits (den / num)).length
    if den ≤ num * 10 ^ (count - 1) then 1 - (count : Int) else -(count : Int)

/-- The reals that round to a number, as fractions of one denominator. -/
structure Rounding where
  low : Nat
  value : Nat
  high : Nat
  den : Nat
  /-- Whether the ends round to the number too. -/
  closed : Bool

/-- The interval of the number `significand * 2 ^ exponent`. Below a power of two the numbers are
twice as dense. -/
def Rounding.of (significand : Nat) (exponent : Int) : Rounding :=
  let gap := if significand = 0x10000000000000 && Binary64.leastExponent < exponent then 1 else 2
  let scale := Binary64.ratio 1 (exponent - 2)
  { low := (4 * significand - gap) * scale.1
    value := 4 * significand * scale.1
    high := (4 * significand + 2) * scale.1
    den := scale.2
    closed := significand % 2 = 0 }

/-- A ratio divided by a power of ten, as a ratio. -/
def shift (num den : Nat) : Int → Nat × Nat
  | .ofNat n => (num, den * 10 ^ n)
  | .negSucc n => (num * 10 ^ (n + 1), den)

/-- Whether `c * 10 ^ unit` lies in the interval. -/
def Rounding.holds (r : Rounding) (unit : Int) (c : Nat) : Bool :=
  let low := shift r.low r.den unit
  let high := shift r.high r.den unit
  if r.closed then low.1 ≤ c * low.2 && c * high.2 ≤ high.1
  else low.1 < c * low.2 && c * high.2 < high.1

/-- Of the two multiples of `10 ^ unit` around the value, the nearer one that lies in the interval;
an exact tie goes to the even multiple. -/
def Rounding.pick (r : Rounding) (unit : Int) : Option Nat :=
  let value := shift r.value r.den unit
  let below := value.1 / value.2
  let twice := 2 * (value.1 % value.2)
  match r.holds unit below, r.holds unit (below + 1) with
  | true, false => some below
  | false, true => some (below + 1)
  | false, false => none
  | true, true =>
      if twice < value.2 then some below
      else if value.2 < twice then some (below + 1)
      else if below % 2 = 0 then some below else some (below + 1)

/-- Tries grids of `count` digits and more, up to `fuel` of them. -/
def Rounding.search (r : Rounding) (order : Int) : Nat → Nat → Nat × Int
  | 0, count => (0, order - count)
  | fuel + 1, count =>
      let unit := order - count + 1
      match r.pick unit with
      | some c => (c, unit)
      | none => r.search order fuel (count + 1)

def stripZeros (digits : List Char) : List Char :=
  (digits.reverse.dropWhile (· == '0')).reverse

/-- The shortest decimal of the number `significand * 2 ^ exponent`, the significand not zero. -/
def shortest (significand : Nat) (exponent : Int) : Decimal :=
  let r := Rounding.of significand exponent
  let found := r.search (decimalOrder r.value r.den) 17 1
  let digits := decimalDigits found.1
  { digits := stripZeros digits, order := found.2 + digits.length - 1 }

end Decimal

end Dossier.Number
