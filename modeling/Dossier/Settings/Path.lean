import Dossier.Number.Digits
import Dossier.Settings.Entry

/-! # Paths of entries

A source names what it sets by a path: a key, followed by keys behind dots and places of lists in
brackets. A name in another form is one key as a whole.
-/

namespace Dossier.Settings

inductive Step where
  | key (name : String)
  /-- A place of a list, counted from its end if negative. -/
  | place (index : Int)
  deriving Repr, DecidableEq

def isKeyChar (c : Char) : Bool :=
  Number.isDigit c || ('a' ≤ c && c ≤ 'z') || ('A' ≤ c && c ≤ 'Z') || c == '_' || c == '-'

/-- The key that a text begins with, and the rest. -/
def readKey? (s : List Char) : Option (String × List Char) :=
  let key := s.takeWhile isKeyChar
  if key.isEmpty then none else some (String.ofList key, s.dropWhile isKeyChar)

/-- Whether a character may stand around the number in brackets. -/
def isPlaceBlank (c : Char) : Bool :=
  c == ' ' || c == '\t'

/-- The place in brackets behind its opening bracket, and the rest. -/
def readPlace? (s : List Char) : Option (Int × List Char) := do
  let (negative, s) := match s.dropWhile isPlaceBlank with
    | '-' :: rest => (true, rest)
    | rest => (false, rest)
  let n ← Number.readDigits? (s.takeWhile Number.isDigit)
  let index : Int := if negative then -n else n
  if !Number.fitsWord index then none
  else match (s.dropWhile Number.isDigit).dropWhile isPlaceBlank with
    | ']' :: rest => some (index, rest)
    | _ => none

/-- The steps of a path behind its first key. -/
def readSteps? : Nat → List Char → Option (List Step)
  | _, [] => some []
  | 0, _ => none
  | fuel + 1, '.' :: rest => do
      let (name, rest) ← readKey? rest
      return .key name :: (← readSteps? fuel rest)
  | fuel + 1, '[' :: rest => do
      let (index, rest) ← readPlace? rest
      return .place index :: (← readSteps? fuel rest)
  | _, _ => none

def readPath (name : String) : List Step :=
  let path := do
    let (first, rest) ← readKey? name.toList
    return Step.key first :: (← readSteps? rest.length rest)
  path.getD [.key name]

namespace Entry

/-- A list that has a place, and where the place is. What was missing says nothing. -/
def makePlace (items : List Entry) (index : Int) : List Entry × Nat :=
  if 0 ≤ index then
    (items ++ List.replicate (index.toNat + 1 - items.length) .null, index.toNat)
  else if index.natAbs ≤ items.length then (items, items.length - index.natAbs)
  else (List.replicate (index.natAbs - items.length) .null ++ items, 0)

/-- Puts an entry at a path, making what is missing on the way. -/
def put (entry : Entry) : List Step → Entry → Entry
  | [], old => old.merge entry
  | .key name :: path, old =>
      let inner := (old.members.lookup name).getD .null
      let source := match old with
        | .table source _ => source
        | _ => none
      .table source (putMember name (put entry path inner) old.members)
  | .place index :: path, old =>
      let (items, place) := makePlace old.items index
      let source := match old with
        | .list source _ => source
        | _ => none
      .list source (items.set place (put entry path (items.getD place .null)))

end Entry

end Dossier.Settings
