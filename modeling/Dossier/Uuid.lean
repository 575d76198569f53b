import Dossier.Json.Decode

/-! # Document identifiers

Identifiers of 128 bits. They are read in four spellings and written in one: hexadecimal digits in
lower case, in groups of 8, 4, 4, 4 and 12 with hyphens between them.
-/

namespace Dossier

/-- An identifier of 128 bits. -/
structure Uuid where
  bits : BitVec 128
  deriving Repr, DecidableEq, Inhabited

namespace Uuid

/-- The characters of the one spelling that is written. -/
def characters (id : Uuid) : List Char :=
  let digits := Number.hexDigits 32 id.bits.toNat
  digits.take 8 ++ '-' :: (digits.drop 8).take 4 ++ '-' :: (digits.drop 12).take 4 ++
    '-' :: (digits.drop 16).take 4 ++ '-' :: digits.drop 20

def text (id : Uuid) : String :=
  String.ofList id.characters

instance : ToString Uuid := ⟨text⟩

inductive ReadFault where
  | length (found : Nat)
  | character (found : Char) (index : Nat)
  | groupCount (found : Nat)
  | groupLength (group expected found : Nat)
  deriving Repr, DecidableEq

def ReadFault.message : ReadFault → String
  | .length found => "invalid length: found " ++ Number.decimal found
  | .character found index =>
      "invalid character: found `" ++ String.singleton found ++ "` at " ++ Number.decimal index
  | .groupCount found => "invalid group count: expected 5, found " ++ Number.decimal found
  | .groupLength group expected found =>
      "invalid group length in group " ++ Number.decimal group ++ ": expected " ++
        Number.decimal expected ++ ", found " ++ Number.decimal found

/-- The longest spelling, in bytes. -/
def longest : Nat := 45

/-- The letters in front of an identifier that is spelt as a resource name. -/
def resourceName : List Char := ['u', 'r', 'n', ':', 'u', 'u', 'i', 'd', ':']

/-- A text without its frame, and how many bytes of frame stood in front of it, if it had one: braces
around it, or the letters of a resource name in front. -/
def unframe (s : List Char) : List Char × Option Nat :=
  match s with
  | '{' :: rest =>
      if rest.getLast? = some '}' then (rest.dropLast, some 1) else (s, none)
  | _ =>
      if (s.take 9).map Char.toLower = resourceName then (s.drop 9, some 9) else (s, none)

/-- The first character that belongs to no spelling, and its index in bytes. -/
def strayCharacter? (index : Nat) : List Char → Option (Char × Nat)
  | [] => none
  | c :: rest =>
      if c = '-' || (Number.hexValue? c).isSome then strayCharacter? (index + c.utf8Size) rest
      else some (c, index)

def hyphens (index : Nat) : List Char → List Nat
  | [] => []
  | c :: rest => if c = '-' then index :: hyphens (index + 1) rest else hyphens (index + 1) rest

/-- A number with one more hexadecimal digit; a hyphen counts for nothing. -/
def withDigit (n : Nat) (c : Char) : Nat :=
  match Number.hexValue? c with
  | some d => 16 * n + d
  | none => n

/-- The number that hexadecimal digits stand for, hyphens among them counting for nothing. -/
def ofDigits (s : List Char) : Uuid :=
  ⟨BitVec.ofNat 128 (s.foldl withDigit 0)⟩

/-- The groups in front of a hyphen: where they begin, and where their hyphens are. -/
def groups : List (Nat × Nat) := [(0, 8), (9, 13), (14, 18), (19, 23)]

/-- The first group, counted from `index`, that ends at another place than it should. -/
def wrongGroup? (index : Nat) : List (Nat × Nat) → List Nat → Option ReadFault
  | (first, last) :: groups, place :: places =>
      if place = last then wrongGroup? (index + 1) groups places
      else some (.groupLength index (last - first) (place - first))
  | _, _ => none

def read (s : String) : Except ReadFault Uuid :=
  let size := s.utf8ByteSize
  if size = 0 ∨ longest < size then .error (.length size)
  else
    let (inner, frame) := unframe s.toList
    match strayCharacter? (frame.getD 0) inner with
    | some (found, index) => .error (.character found index)
    | none =>
        let places := hyphens 0 inner
        if places.isEmpty && frame.isNone then
          if inner.length = 32 then .ok (ofDigits inner) else .error (.length size)
        else if places.length ≠ 4 then .error (.groupCount (places.length + 1))
        else match wrongGroup? 0 groups places with
          | some fault => .error fault
          | none =>
              if inner.length = 36 then .ok (ofDigits inner)
              else .error (.groupLength 4 12 (size - 24))

def decode : Json.Decoder Uuid :=
  Json.decodeText "a formatted UUID string" fun s =>
    (read s).mapError fun fault => .malformed ("UUID parsing failed: " ++ fault.message)

end Uuid

end Dossier
