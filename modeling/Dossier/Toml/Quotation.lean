import Dossier.Number.Digits

/-! # TOML strings

Strings in quotes or apostrophes, on one line or on several. Between apostrophes every character stands
for itself; between quotes a backslash introduces another one.
-/

namespace Dossier.Toml

/-- Whether a character may stand in a string or a comment. -/
def isPlain (c : Char) : Bool :=
  c == '\t' || (0x20 ≤ c.toNat && c.toNat != 0x7F)

def charOfHex? (digits : List Char) : Option Char := do
  let values ← digits.mapM Number.hexValue?
  let n := values.foldl (fun n d => 16 * n + d) 0
  if n.isValidChar then some (Char.ofNat n) else none

/-- The character that stands behind a backslash, and the text behind it. -/
def readEscape? : List Char → Option (Char × List Char)
  | 'b' :: rest => some ('\x08', rest)
  | 't' :: rest => some ('\t', rest)
  | 'n' :: rest => some ('\n', rest)
  | 'f' :: rest => some ('\x0c', rest)
  | 'r' :: rest => some ('\r', rest)
  | 'e' :: rest => some ('\x1b', rest)
  | '"' :: rest => some ('"', rest)
  | '\\' :: rest => some ('\\', rest)
  | 'x' :: a :: b :: rest => (charOfHex? [a, b]).map fun c => (c, rest)
  | 'u' :: a :: b :: c :: d :: rest => (charOfHex? [a, b, c, d]).map fun c => (c, rest)
  | 'U' :: a :: b :: c :: d :: e :: f :: g :: h :: rest =>
      (charOfHex? [a, b, c, d, e, f, g, h]).map fun c => (c, rest)
  | _ => none

/-- A string on one line behind its opening `quote`, and the text behind it. -/
def readLine? (quote : Char) : Nat → List Char → Option (List Char × List Char)
  | 0, _ => none
  | _, [] => none
  | fuel + 1, c :: rest =>
      if c = quote then some ([], rest)
      else if c = '\\' ∧ quote = '"' then do
        let (c, rest) ← readEscape? rest
        let (cs, rest) ← readLine? quote fuel rest
        return (c :: cs, rest)
      else if isPlain c then do
        let (cs, rest) ← readLine? quote fuel rest
        return (c :: cs, rest)
      else none

def isGap (c : Char) : Bool := c == ' ' || c == '\t'

/-- Whether a character separates words or lines. -/
def isSpace (c : Char) : Bool := isGap c || c == '\n' || c == '\r'

/-- Whether a text begins a new line, but for gaps. -/
def endsLine (s : List Char) : Bool :=
  match s.dropWhile isGap with
  | '\n' :: _ | '\r' :: '\n' :: _ => true
  | _ => false

/-- A string on several lines behind its three opening quotes, and the text behind it. One or two
quotes in front of the three closing ones belong to the string. -/
def readBlock? (quote : Char) : Nat → List Char → Option (List Char × List Char)
  | 0, _ => none
  | _, [] => none
  | fuel + 1, c :: rest =>
      let more (cs : List Char) (rest : List Char) := do
        let (others, rest) ← readBlock? quote fuel rest
        return (cs ++ others, rest)
      if c = quote then
        match rest with
        | a :: b :: rest' =>
            if a = quote ∧ b = quote then
              let quotes := (rest'.take 2).takeWhile (· == quote)
              some (quotes, rest'.drop quotes.length)
            else more [c] rest
        | _ => none
      else if c = '\\' ∧ quote = '"' then
        if endsLine rest then more [] (rest.dropWhile isSpace)
        else do
          let (c, rest) ← readEscape? rest
          more [c] rest
      else if c = '\n' then more ['\n'] rest
      else if c = '\r' then
        match rest with
        | '\n' :: rest => more ['\n'] rest
        | _ => none
      else if isPlain c then more [c] rest
      else none

def dropNewline : List Char → List Char
  | '\n' :: rest | '\r' :: '\n' :: rest => rest
  | rest => rest

/-- A string, from its first quote or apostrophe on. -/
def readString? (s : List Char) : Option (String × List Char) := do
  let (cs, rest) ← match s with
    | '"' :: '"' :: '"' :: rest => readBlock? '"' (rest.length + 1) (dropNewline rest)
    | '\'' :: '\'' :: '\'' :: rest => readBlock? '\'' (rest.length + 1) (dropNewline rest)
    | '"' :: rest => readLine? '"' (rest.length + 1) rest
    | '\'' :: rest => readLine? '\'' (rest.length + 1) rest
    | _ => none
  return (String.ofList cs, rest)

end Dossier.Toml
