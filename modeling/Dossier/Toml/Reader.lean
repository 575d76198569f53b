import Dossier.Toml.Quotation
import Dossier.Toml.Scalar
import Dossier.Toml.Table

/-! # Reading TOML

From a text to its table. A text is read as a whole or not at all.
-/

namespace Dossier.Toml

/-- The text behind a comment, if the text begins with one. -/
def skipComment? : List Char → Option (List Char)
  | '#' :: rest =>
      let behind := rest.dropWhile isPlain
      match behind with
      | [] | '\n' :: _ | '\r' :: '\n' :: _ => some behind
      | _ => none
  | rest => some rest

def skipGaps (s : List Char) : List Char := s.dropWhile isGap

def skipLines? : Nat → List Char → Option (List Char)
  | 0, s => some s
  | fuel + 1, s => match skipGaps s with
    | '#' :: rest => (skipComment? ('#' :: rest)).bind (skipLines? fuel)
    | '\n' :: rest => skipLines? fuel rest
    | '\r' :: '\n' :: rest => skipLines? fuel rest
    | rest => some rest

def endLine? (s : List Char) : Option (List Char) := do
  match ← skipComment? (skipGaps s) with
  | [] => some []
  | '\n' :: rest => some rest
  | '\r' :: '\n' :: rest => some rest
  | _ => none

/-- Whether a character may stand in a key without quotes. -/
def isBare (c : Char) : Bool :=
  Number.isDigit c || ('a' ≤ c && c ≤ 'z') || ('A' ≤ c && c ≤ 'Z') || c == '_' || c == '-'

def readPart? (s : List Char) : Option (String × List Char) :=
  match s with
  | '"' :: rest => (readLine? '"' (rest.length + 1) rest).map fun (cs, r) => (String.ofList cs, r)
  | '\'' :: rest => (readLine? '\'' (rest.length + 1) rest).map fun (cs, r) => (String.ofList cs, r)
  | _ =>
      let bare := s.takeWhile isBare
      if bare.isEmpty then none else some (String.ofList bare, s.dropWhile isBare)

/-- A key, perhaps with dots, and the text behind it and its gaps. -/
def readKey? : Nat → List Char → Option (List String × List Char)
  | 0, _ => none
  | fuel + 1, s => do
      let (part, rest) ← readPart? (skipGaps s)
      match skipGaps rest with
      | '.' :: rest =>
          let (parts, rest) ← readKey? fuel rest
          return (part :: parts, rest)
      | rest => return ([part], rest)

def endsScalar (c : Char) : Bool :=
  isSpace c || c == ',' || c == ']' || c == '\x7d' || c == '#'

/-- The characters of a value without quotes. A date and a time may have a space between them. -/
def splitScalar (s : List Char) : List Char × List Char :=
  let first := s.takeWhile fun c => !endsScalar c
  let rest := s.dropWhile fun c => !endsScalar c
  match rest with
  | ' ' :: rest' =>
      match rest' with
      | c :: _ =>
          if Number.isDigit c && (readDate? first).any (·.2.isEmpty) then
            (first ++ ' ' :: rest'.takeWhile fun c => !endsScalar c,
              rest'.dropWhile fun c => !endsScalar c)
          else (first, rest)
      | [] => (first, rest)
  | _ => (first, rest)

mutual
def readValue? : Nat → List Char → Option (Toml × List Char)
  | 0, _ => none
  | fuel + 1, s => match s with
    | '"' :: _ | '\'' :: _ => (readString? s).map fun (string, rest) => (.text string, rest)
    | '[' :: rest => do
        let (items, rest) ← readItems? fuel (← skipLines? rest.length rest)
        return (.array items, rest)
    | '{' :: rest => do
        let (pairs, rest) ← readPairs? fuel (← skipLines? rest.length rest)
        return (.table (← tableOfPairs? pairs), rest)
    | _ => do
        let (scalar, rest) := splitScalar s
        return (← readScalar? scalar, rest)

/-- The items of an array up to its bracket. -/
def readItems? : Nat → List Char → Option (List Toml × List Char)
  | 0, _ => none
  | _, ']' :: rest => some ([], rest)
  | fuel + 1, s => do
      let (item, rest) ← readValue? fuel s
      match ← skipLines? rest.length rest with
      | ',' :: rest =>
          let (items, rest) ← readItems? fuel (← skipLines? rest.length rest)
          return (item :: items, rest)
      | ']' :: rest => return ([item], rest)
      | _ => none

/-- The pairs of a table in braces up to its brace. -/
def readPairs? : Nat → List Char → Option (List (List String × Toml) × List Char)
  | 0, _ => none
  | _, '}' :: rest => some ([], rest)
  | fuel + 1, s => do
      let (pair, rest) ← readPair? fuel s
      match ← skipLines? rest.length rest with
      | ',' :: rest =>
          let (pairs, rest) ← readPairs? fuel (← skipLines? rest.length rest)
          return (pair :: pairs, rest)
      | '}' :: rest => return ([pair], rest)
      | _ => none

def readPair? : Nat → List Char → Option ((List String × Toml) × List Char)
  | 0, _ => none
  | fuel + 1, s => do
      let (path, rest) ← readKey? s.length s
      match rest with
      | '=' :: rest =>
          let (v, rest) ← readValue? fuel (skipGaps rest)
          return ((path, v), rest)
      | _ => none
end

/-- A line that is not blank. -/
def readLineOf? (s : List Char) : Option (Line × List Char) :=
  match s with
  | '[' :: '[' :: rest => do
      let (path, rest) ← readKey? rest.length rest
      match rest with
      | ']' :: ']' :: rest => return (.nextHeader path, rest)
      | _ => none
  | '[' :: rest => do
      let (path, rest) ← readKey? rest.length rest
      match rest with
      | ']' :: rest => return (.header path, rest)
      | _ => none
  | _ => do
      let ((path, v), rest) ← readPair? (4 * s.length + 4) s
      return (.pair path v, rest)

def readLines? : Nat → List Char → Option (List Line)
  | 0, _ => none
  | fuel + 1, s => do
      match ← skipLines? s.length s with
      | [] => return []
      | s =>
          let (line, rest) ← readLineOf? s
          let rest ← endLine? rest
          return line :: (← readLines? fuel rest)

/-- The table of a text. A mark of the byte order in front of it is passed over. -/
def read? (text : String) : Option (List (String × Toml)) := do
  let chars := match text.toList with
    | '\uFEFF' :: rest => rest
    | chars => chars
  tableOfLines? (← readLines? (chars.length + 1) chars)

end Dossier.Toml
