import Dossier.Json.Fault
import Dossier.Number.Digits

/-! # Numerals of a JSON text

The parts of a number, and what number they make. The value of a numeral that is not whole is found
by one multiplication or division of the leading digits, so far as they fit a word of 64 bits, by a
power of ten; it need not be the nearest one.
-/

namespace Dossier.Json

open Dossier.Number

structure Numeral where
  negative : Bool
  whole : List Char
  /-- The digits behind the point. -/
  fraction : Option (List Char)
  /-- The sign of the exponent, if it is written, and its digits. -/
  exponent : Option (Option Char × List Char)
  deriving Repr, DecidableEq

namespace Numeral

/-- How many bytes the numeral takes, the digits of the exponent left out. -/
def bytesBeforeExponent (n : Numeral) : Nat :=
  (if n.negative then 1 else 0) + n.whole.length +
    (match n.fraction with
      | none => 0
      | some digits => digits.length + 1) +
    match n.exponent with
      | none => 0
      | some (sign, _) => if sign.isSome then 2 else 1

def bytes (n : Numeral) : Nat :=
  n.bytesBeforeExponent + match n.exponent with
    | none => 0
    | some (_, digits) => digits.length

/-- Why a text is no numeral: it ends too early, or a character stands where a digit must. Either
way the number of bytes in front of that place is known. -/
inductive Flaw where
  | ended (bytes : Nat)
  | wrong (bytes : Nat) (found : Char)

/-- How far the text had been taken when a flaw showed. -/
def Flaw.position (start : Position) : Flaw → Position
  | .ended bytes => start.skip bytes
  | .wrong bytes found => (start.skip bytes).touch found

/-- What a flaw is to one who wants the number. -/
def Flaw.asRead (start : Position) (flaw : Flaw) : Fault :=
  .at (flaw.position start) (match flaw with
    | .ended _ => .endInValue
    | .wrong _ _ => .invalidNumber)

/-- What a flaw is to one who passes over the number. -/
def Flaw.asSkipped (start : Position) (flaw : Flaw) : Fault :=
  .at (flaw.position start) .invalidNumber

/-- At least one digit, `bytes` bytes into the numeral. -/
def someDigits (bytes : Nat) (s : List Char) : Except Flaw (List Char × List Char) :=
  match s with
  | [] => .error (.ended bytes)
  | c :: _ => if isDigit c then .ok (s.takeWhile isDigit, s.dropWhile isDigit) else .error (.wrong bytes c)

/-- The digits in front of the point. A zero stands alone. -/
def scanWhole (bytes : Nat) (s : List Char) : Except Flaw (List Char × List Char) :=
  match s with
  | '0' :: c :: rest => if isDigit c then .error (.wrong (bytes + 1) c) else .ok (['0'], c :: rest)
  | _ => someDigits bytes s

def scanFraction (bytes : Nat) : List Char → Except Flaw (Option (List Char) × List Char)
  | '.' :: rest => (someDigits (bytes + 1) rest).map fun found => (some found.1, found.2)
  | s => .ok (none, s)

def scanExponent (bytes : Nat) :
    List Char → Except Flaw (Option (Option Char × List Char) × List Char)
  | c :: rest =>
      if c = 'e' ∨ c = 'E' then
        match rest with
        | '+' :: after =>
            (someDigits (bytes + 2) after).map fun found => (some (some '+', found.1), found.2)
        | '-' :: after =>
            (someDigits (bytes + 2) after).map fun found => (some (some '-', found.1), found.2)
        | _ => (someDigits (bytes + 1) rest).map fun found => (some (none, found.1), found.2)
      else .ok (none, c :: rest)
  | [] => .ok (none, [])

/-- The numeral that a text starts with, and the rest of the text. -/
def scan (negative : Bool) (s : List Char) : Except Flaw (Numeral × List Char) := do
  let sign := if negative then 1 else 0
  let (whole, rest) ← scanWhole sign s
  let (fraction, rest) ← scanFraction (sign + whole.length) rest
  let soFar : Numeral := ⟨negative, whole, fraction, none⟩
  let (exponent, rest) ← scanExponent soFar.bytes rest
  return ({ soFar with exponent }, rest)

def greatestWord : Nat := 0xFFFFFFFFFFFFFFFF

/-- Appends digits to a number while it fits a word; the digits that are left. -/
def appendDigits (n : Nat) : List Char → Nat × List Char
  | [] => (n, [])
  | c :: rest =>
      let longer := 10 * n + digitValue c
      if greatestWord < longer then (n, c :: rest) else appendDigits longer rest

def greatestPower : Int := 308

/-- Multiplies or divides by a power of ten, once. A number too small for that is first divided by
the greatest power, up to `fuel` times; three times leave nothing of a word. `none` is an overflow. -/
def scale : Nat → Binary64 → Int → Option Binary64
  | 0, x, _ => some x
  | fuel + 1, x, exponent =>
      if exponent.natAbs ≤ 308 then
        let power := Binary64.ofNat (10 ^ exponent.natAbs)
        let scaled := if 0 ≤ exponent then x.mul power else x.div power
        if scaled.isInfinite then none else some scaled
      else if x.isZero then some x
      else if 0 ≤ exponent then none
      else scale fuel (x.div (Binary64.ofNat (10 ^ 308))) (exponent + greatestPower)

/-- The greatest exponent that is told from greater ones. -/
def greatestExponent : Nat := 0x7FFFFFFF

/-- The value of the digits of an exponent, or how many of them show that it is past all bounds. -/
def exponentValue (n taken : Nat) : List Char → Except Nat Nat
  | [] => .ok n
  | c :: rest =>
      let longer := 10 * n + digitValue c
      if greatestExponent < longer then .error (taken + 1) else exponentValue longer (taken + 1) rest

/-- A number that is not whole, with its sign. -/
def signed (negative : Bool) (x : Binary64) : Number :=
  .real (if negative then x.neg else x)

/-- The number, or after how many bytes it showed to be out of range. -/
def value (n : Numeral) : Except Nat Number :=
  let (leading, dropped) := appendDigits 0 n.whole
  let finish (significand : Nat) (exponent : Int) : Except Nat Number :=
    match scale 4 (Binary64.ofNat significand) exponent with
    | none => .error n.bytes
    | some x => .ok (signed n.negative x)
  match n.fraction, n.exponent, dropped with
  | none, none, [] =>
      if !n.negative then .ok (.whole leading)
      else if leading = 0 ∨ 0x8000000000000000 < leading then .ok (signed true (.ofNat leading))
      else .ok (.whole (-leading))
  | fraction, exponent, dropped =>
      let (significand, ignored) := appendDigits leading (fraction.getD [])
      let order : Int :=
        (dropped.length : Int) - ((fraction.getD []).length - ignored.length : Nat)
      match exponent with
      | none => finish significand order
      | some (sign, digits) =>
          let below := sign == some '-'
          match exponentValue 0 0 digits with
          | .ok e => finish significand (if below then order - e else order + e)
          | .error taken =>
              if significand ≠ 0 ∧ !below then .error (n.bytesBeforeExponent + taken)
              else .ok (signed n.negative (.ofNat 0))

end Numeral

end Dossier.Json
