/-! # Text from bytes

Text is UTF-8 as a rule. A sequence of bytes that begins like a character and is no character is read as
one bad spot, up to the first byte that cannot belong to it. Only a mark of the byte order may tell that
bytes are UTF-16.
-/

namespace Dossier.Text

/-- The beginning of a character of several bytes. -/
structure Begun where
  /-- The number that the bytes so far stand for. -/
  value : Nat
  /-- How many bytes follow. -/
  missing : Nat
  /-- The bounds of the next byte. -/
  low : Nat
  high : Nat
  deriving Repr, DecidableEq

/-- What a byte begins. -/
inductive Lead where
  | ascii (c : Char)
  | begun (p : Begun)
  | bad
  deriving Repr, DecidableEq

/-- What a byte begins. Bounds of the second byte keep out characters that have shorter spellings, and
numbers that are no characters. -/
def lead (byte : UInt8) : Lead :=
  let b := byte.toNat
  if b < 0x80 then .ascii (Char.ofNat b)
  else if b < 0xC2 then .bad
  else if b < 0xE0 then .begun ⟨b - 0xC0, 1, 0x80, 0xBF⟩
  else if b < 0xF0 then
    .begun ⟨b - 0xE0, 2, if b = 0xE0 then 0xA0 else 0x80, if b = 0xED then 0x9F else 0xBF⟩
  else if b < 0xF5 then
    .begun ⟨b - 0xF0, 3, if b = 0xF0 then 0x90 else 0x80, if b = 0xF4 then 0x8F else 0xBF⟩
  else .bad

/-- The characters of bytes, `none` for every bad spot; a character has begun already, perhaps. -/
def units : Option Begun → List UInt8 → List (Option Char)
  | none, [] => []
  | some _, [] => [none]
  | held, byte :: rest =>
      let fresh := match lead byte with
        | .ascii c => some c :: units none rest
        | .bad => none :: units none rest
        | .begun p => units (some p) rest
      match held with
      | none => fresh
      | some p =>
          if p.low ≤ byte.toNat ∧ byte.toNat ≤ p.high then
            let value := 64 * p.value + byte.toNat % 64
            if p.missing = 1 then some (Char.ofNat value) :: units none rest
            else units (some ⟨value, p.missing - 1, 0x80, 0xBF⟩) rest
          else none :: fresh

/-- The text of bytes, if it has no bad spot. -/
def ofUtf8? (bytes : List UInt8) : Option String :=
  ((units none bytes).mapM id).map String.ofList

def replacement : Char := '\uFFFD'

/-- The text of bytes, with every bad spot replaced. -/
def replaced (bytes : List UInt8) : String :=
  String.ofList ((units none bytes).map (·.getD replacement))

/-- The text of bytes, with every bad spot replaced. A mark of the byte order in front is dropped. -/
def ofUtf8Lossy (bytes : List UInt8) : String :=
  let chars := (units none bytes).map (·.getD replacement)
  String.ofList (if chars.head? = some '\uFEFF' then chars.drop 1 else chars)

/-- The code units of UTF-16 in bytes, of each of which the lower byte comes first if `little`; `none` for a
byte that is left over. -/
def codeUnits (little : Bool) : List UInt8 → List (Option Nat)
  | [] => []
  | [_] => [none]
  | a :: b :: rest =>
      some (if little then a.toNat + 256 * b.toNat else 256 * a.toNat + b.toNat) :: codeUnits little rest

/-- The characters of code units. A surrogate without its other half is replaced, and so is what is left over
at the end, be it a byte or half a pair or both. -/
def ofCodeUnits : List (Option Nat) → List Char
  | [] => []
  | none :: rest => replacement :: ofCodeUnits rest
  | some n :: rest =>
      if n < 0xD800 ∨ 0xDFFF < n then Char.ofNat n :: ofCodeUnits rest
      else if 0xDC00 ≤ n then replacement :: ofCodeUnits rest
      else match rest with
        | some low :: others =>
            if 0xDC00 ≤ low ∧ low ≤ 0xDFFF then
              Char.ofNat (0x10000 + (n - 0xD800) * 0x400 + (low - 0xDC00)) :: ofCodeUnits others
            else replacement :: ofCodeUnits (some low :: others)
        | none :: _ | [] => [replacement]

/-- The text of bytes, of which a mark of the byte order in front may tell that they are UTF-16, with every bad
spot replaced and without the mark. -/
def ofMarked : List UInt8 → String
  | 0xFF :: 0xFE :: rest => String.ofList (ofCodeUnits (codeUnits true rest))
  | 0xFE :: 0xFF :: rest => String.ofList (ofCodeUnits (codeUnits false rest))
  | bytes => ofUtf8Lossy bytes

end Dossier.Text
