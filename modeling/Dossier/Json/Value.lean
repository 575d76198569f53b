import Dossier.Number.Binary64

/-! # JSON values

Values without their text: numbers keep whether they were whole, and an object lists its members by
key, in the order of code points, each key once.
-/

namespace Dossier.Json

/-- A number of a JSON text. Whole numbers that fit a word of 64 bits, with or without sign, stay
whole. -/
inductive Number where
  | whole (n : Int)
  | real (x : Number.Binary64)
  deriving Repr, DecidableEq, Inhabited

end Dossier.Json

namespace Dossier

inductive Json where
  | null
  | bool (b : Bool)
  | number (n : Json.Number)
  | string (s : String)
  | array (items : List Json)
  | object (members : List (String × Json))
  deriving Repr, Inhabited

namespace Json

/-- The members of an object, by key. -/
abbrev Members := List (String × Json)

/-- The members with one of them put in its place; an earlier value of the key is dropped. -/
def Members.insert (key : String) (value : Json) : Members → Members
  | [] => [(key, value)]
  | (k, v) :: rest =>
      if key < k then (key, value) :: (k, v) :: rest
      else if key = k then (key, value) :: rest
      else (k, v) :: Members.insert key value rest

def Members.get? (key : String) (members : Members) : Option Json :=
  members.lookup key

/-- The members that a list of pairs leaves, of two pairs with one key the later. -/
def Members.ofList (pairs : List (String × Json)) : Members :=
  pairs.foldl (fun members pair => members.insert pair.1 pair.2) []

def string? : Json → Option String
  | .string s => some s
  | _ => none

end Json

end Dossier
