import Dossier.Json.Value
import Dossier.Number.Layout

/-! # JSON texts of values

The compact text of a value: no blanks, members in their order, characters past ASCII as they are.
-/

namespace Dossier.Json

/-- How numbers that are not whole are written: without an exponent from `0.00001` up to sixteen
digits, and with `.0` if they happen to be whole. -/
def layout : Dossier.Number.Layout := ⟨some (-5, 15), true⟩

def Number.print : Number → List Char
  | .whole n => (Dossier.Number.decimalInt n).toList
  | .real x => (layout.text x).toList

/-- A character as it stands in a string. -/
def escape (c : Char) : List Char :=
  if c = '"' then ['\\', '"']
  else if c = '\\' then ['\\', '\\']
  else if c = '\x08' then ['\\', 'b']
  else if c = '\x0c' then ['\\', 'f']
  else if c = '\n' then ['\\', 'n']
  else if c = '\r' then ['\\', 'r']
  else if c = '\t' then ['\\', 't']
  else if c.toNat < 0x20 then '\\' :: 'u' :: Dossier.Number.hexDigits 4 c.toNat
  else [c]

def printString (s : String) : List Char :=
  '"' :: s.toList.flatMap escape ++ ['"']

mutual
def print : Json → List Char
  | .null => ['n', 'u', 'l', 'l']
  | .bool true => ['t', 'r', 'u', 'e']
  | .bool false => ['f', 'a', 'l', 's', 'e']
  | .number n => n.print
  | .string s => printString s
  | .array items => '[' :: printItems items
  | .object members => '{' :: printMembers members

/-- The text of the items of an array, with what closes it. -/
def printItems : List Json → List Char
  | [] => [']']
  | [item] => item.print ++ [']']
  | item :: rest => item.print ++ ',' :: printItems rest

/-- The text of the members of an object, with what closes it. -/
def printMembers : List (String × Json) → List Char
  | [] => ['}']
  | [(key, value)] => printString key ++ ':' :: value.print ++ ['}']
  | (key, value) :: rest => printString key ++ ':' :: value.print ++ ',' :: printMembers rest
end

def text (json : Json) : String :=
  String.ofList json.print

end Dossier.Json
