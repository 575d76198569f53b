import Dossier.Number.Word

/-! # Digits

Writing natural numbers in a base and reading decimal ones. A reader takes digits alone: signs and
separators are for its callers.
-/

namespace Dossier.Number

/-- The character of a digit below sixteen, letters in lower case. -/
def digitChar (d : Nat) : Char :=
  if d < 10 then Char.ofNat (48 + d) else Char.ofNat (87 + d)

/-- The digits of a number in front of those already written; `fuel` bounds their count. -/
def digitsOnto (base : Nat) : Nat → Nat → List Char → List Char
  | 0, _, written => written
  | fuel + 1, n, written =>
      if n < base then digitChar n :: written
      else digitsOnto base fuel (n / base) (digitChar (n % base) :: written)

def decimalDigits (n : Nat) : List Char :=
  digitsOnto 10 (n.log2 + 1) n []

def decimal (n : Nat) : String :=
  String.ofList (decimalDigits n)

def decimalInt : Int → String
  | .ofNat n => decimal n
  | .negSucc n => "-" ++ decimal (n + 1)

/-- The decimal digits of a number behind enough zeros to fill a width. -/
def paddedDigits (width n : Nat) : List Char :=
  let digits := decimalDigits n
  List.replicate (width - digits.length) '0' ++ digits

/-- The hexadecimal digits of a number, in lower case, behind enough zeros to fill a width. -/
def hexDigits (width n : Nat) : List Char :=
  let digits := digitsOnto 16 (n.log2 + 1) n []
  List.replicate (width - digits.length) '0' ++ digits

def isDigit (c : Char) : Bool :=
  '0' ≤ c && c ≤ '9'

def digitValue (c : Char) : Nat :=
  c.toNat - 48

def hexValue? (c : Char) : Option Nat :=
  if isDigit c then some (c.toNat - 48)
  else if 'a' ≤ c && c ≤ 'f' then some (c.toNat - 87)
  else if 'A' ≤ c && c ≤ 'F' then some (c.toNat - 55)
  else none

def ofDigits (digits : List Char) : Nat :=
  digits.foldl (fun n c => 10 * n + digitValue c) 0

/-- The number that a text of decimal digits, at least one, stands for. -/
def readDigits? (s : List Char) : Option Nat :=
  if !s.isEmpty && s.all isDigit then some (ofDigits s) else none

/-- The integer in a text of decimal digits behind an optional sign. -/
def readInt? : List Char → Option Int
  | '-' :: digits => (readDigits? digits).map fun n => -(n : Int)
  | '+' :: digits => (readDigits? digits).map Int.ofNat
  | digits => (readDigits? digits).map Int.ofNat

end Dossier.Number
