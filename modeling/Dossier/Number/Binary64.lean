import Dossier.Number.Word

/-! # Binary floating point

The numbers of the 64-bit binary interchange format, as sign, significand and power of two, with the
one operation everything else is made of: the nearest such number to a ratio, a tie going to the even
significand. Products and quotients are exact ratios first and are rounded once.
-/

namespace Dossier.Number

/-- A number of the format. A finite one is `significand * 2 ^ exponent`; `Binary64.nearest` gives
it with 53 significant bits, or with the least exponent. -/
inductive Binary64 where
  | finite (negative : Bool) (significand : Nat) (exponent : Int)
  | infinite (negative : Bool)
  | nan
  deriving Repr, DecidableEq, Inhabited

namespace Binary64

/-- The exponent of the smallest numbers. -/
def leastExponent : Int := -1074

/-- The exponent of the largest numbers. -/
def greatestExponent : Int := 971

/-- How many bits a significand has at most. -/
def width : Nat := 53

/-- The quotient rounded to the nearest whole number, a tie to the even one. -/
def roundDiv (num den : Nat) : Nat :=
  let whole := num / den
  let twice := 2 * (num % den)
  if twice < den then whole
  else if den < twice then whole + 1
  else if whole % 2 = 0 then whole else whole + 1

/-- A ratio divided by a power of two, as a ratio. -/
def scaleDown (num den : Nat) : Int → Nat × Nat
  | .ofNat n => (num, den * 2 ^ n)
  | .negSucc n => (num * 2 ^ (n + 1), den)

/-- The greatest power of two that a positive ratio reaches. -/
def binaryOrder (num den : Nat) : Int :=
  let guess : Int := (num.log2 : Int) - den.log2
  let scaled := scaleDown num den guess
  if scaled.1 < scaled.2 then guess - 1 else guess

/-- The number nearest to a ratio. -/
def nearest (negative : Bool) (num den : Nat) : Binary64 :=
  if num = 0 then .finite negative 0 leastExponent
  else
    let exponent := max (binaryOrder num den - 52) leastExponent
    let scaled := scaleDown num den exponent
    let significand := roundDiv scaled.1 scaled.2
    let carried := significand = 2 ^ width
    let exponent := if carried then exponent + 1 else exponent
    let significand := if carried then 2 ^ (width - 1) else significand
    if greatestExponent < exponent then .infinite negative
    else .finite negative significand exponent

def ofNat (n : Nat) : Binary64 :=
  nearest false n 1

/-- A whole number times a power of two, as a ratio. -/
def ratio (significand : Nat) : Int → Nat × Nat
  | .ofNat n => (significand * 2 ^ n, 1)
  | .negSucc n => (significand, 2 ^ (n + 1))

/-- The product, rounded once. -/
def mul : Binary64 → Binary64 → Binary64
  | .finite s m q, .finite t n r =>
      let product := ratio (m * n) (q + r)
      nearest (s != t) product.1 product.2
  | .finite s m _, .infinite t | .infinite s, .finite t m _ =>
      if m = 0 then .nan else .infinite (s != t)
  | .infinite s, .infinite t => .infinite (s != t)
  | .nan, _ | _, .nan => .nan

/-- The quotient, rounded once. -/
def div : Binary64 → Binary64 → Binary64
  | .finite s m q, .finite t n r =>
      if n = 0 then if m = 0 then .nan else .infinite (s != t)
      else
        let quotient := ratio m (q - r)
        nearest (s != t) quotient.1 (quotient.2 * n)
  | .finite s _ _, .infinite t => .finite (s != t) 0 leastExponent
  | .infinite s, .finite t _ _ => .infinite (s != t)
  | .infinite _, .infinite _ => .nan
  | .nan, _ | _, .nan => .nan

def neg : Binary64 → Binary64
  | .finite s m q => .finite (!s) m q
  | .infinite s => .infinite (!s)
  | .nan => .nan

def isZero : Binary64 → Bool
  | .finite _ m _ => m == 0
  | _ => false

def isInfinite : Binary64 → Bool
  | .infinite _ => true
  | _ => false

/-- The whole number nearest to a number of either sign, a half going away from zero, and cut to
the range from zero to `most`. What is not a number counts as zero. -/
def clampToNat (most : Nat) : Binary64 → Nat
  | .finite true _ _ | .infinite true | .nan => 0
  | .infinite false => most
  | .finite false m q =>
      let value := ratio m q
      min most ((2 * value.1 + value.2) / (2 * value.2))

end Binary64

end Dossier.Number
