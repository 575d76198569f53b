import Dossier.Json.Fault
import Dossier.Number.Digits

/-! # Strings of a JSON text

The inside of a string is split into units, each a character or a code unit of UTF-16 spelt in
hexadecimal, up to the closing quote or to where the text stops being a string. One who passes over
the string asks no more of it; one who wants its value pairs the surrogates among the units.
-/

namespace Dossier.Json

open Dossier.Number

/-- A unit of a string and the position after it. -/
inductive StringUnit where
  /-- A character that stands for itself. -/
  | plain (c : Char) (stop : Position)
  /-- A character behind a backslash. -/
  | escaped (c : Char) (stop : Position)
  /-- A code unit spelt by four hexadecimal digits. -/
  | code (n : Nat) (stop : Position)
  deriving Repr, DecidableEq

/-- How the inside of a string ends. -/
inductive StringEnd where
  /-- With the closing quote; the text behind it. -/
  | closed (stop : Position) (rest : List Char)
  /-- With the text, in front of a unit or within an escape. -/
  | ended (place : Position)
  /-- At a control character, which is not allowed in strings. -/
  | control (place : Position) (c : Char)
  /-- At an escape that does not exist, taken up to its letter. -/
  | badLetter (place : Position)
  /-- At an escape with something else in the place of its four digits. -/
  | badCode (place : Position)
  deriving Repr, DecidableEq

/-- Where the string stops and what is left, for one who passes over it. -/
def StringEnd.skip : StringEnd → Except Fault (Position × List Char)
  | .closed stop rest => .ok (stop, rest)
  | .ended place => .error (.at place .endInString)
  | .control place _ => .error (.at place .controlCharacter)
  | .badLetter place => .error (.at place .invalidEscape)
  | .badCode place => .error (.at place .invalidEscape)

/-- What the end of a string is to one who wants its value. -/
def StringEnd.read : StringEnd → Option Fault
  | .closed _ _ => none
  | .ended place => some (.at place .endInString)
  | .control place c => some (.at (place.touch c) .controlCharacter)
  | .badLetter place => some (.at place .invalidEscape)
  | .badCode place => some (.at place .invalidEscape)

/-- What the end of a string is right behind the first half of a pair of surrogates. -/
def StringEnd.unpaired (high : Position) : StringEnd → Fault
  | .closed stop _ => .at stop .endOfHexEscape
  | .ended place => .at place .endInString
  | .control _ c => .at (high.touch c) .endOfHexEscape
  | .badLetter place => .at place .endOfHexEscape
  | .badCode place => .at place .invalidEscape

namespace Quotation

/-- The character that an escape of one letter stands for. -/
def escapeLetter? (c : Char) : Option Char :=
  match c with
  | '"' => some '"'
  | '\\' => some '\\'
  | '/' => some '/'
  | 'b' => some '\x08'
  | 'f' => some '\x0c'
  | 'n' => some '\n'
  | 'r' => some '\r'
  | 't' => some '\t'
  | _ => none

/-- The code unit that four hexadecimal digits spell. -/
def codeUnit? (a b c d : Char) : Option Nat := do
  let a ← hexValue? a
  let b ← hexValue? b
  let c ← hexValue? c
  let d ← hexValue? d
  return ((a * 16 + b) * 16 + c) * 16 + d

/-- How a string ends whose escape lacks four digits: the four bytes in their place are taken. -/
def missingCode (p : Position) (s : List Char) : StringEnd :=
  match p.pastBytes 4 s with
  | (true, q) => .badCode q
  | (false, q) => .ended q

/-- The units of the inside of a string, and how it ends. -/
def units (p : Position) : List Char → List StringUnit × StringEnd
  | [] => ([], .ended p)
  | '"' :: rest => ([], .closed (p.skip 1) rest)
  | '\\' :: rest =>
      match rest with
      | [] => ([], .ended (p.skip 1))
      | 'u' :: digits =>
          match digits with
          | a :: b :: c :: d :: rest =>
              match codeUnit? a b c d with
              | none => ([], missingCode (p.skip 2) digits)
              | some n =>
                  let found := units (p.skip 6) rest
                  (.code n (p.skip 6) :: found.1, found.2)
          | _ => ([], missingCode (p.skip 2) digits)
      | letter :: rest =>
          match escapeLetter? letter with
          | none => ([], .badLetter ((p.skip 1).touch letter))
          | some c =>
              let found := units (p.skip 2) rest
              (.escaped c (p.skip 2) :: found.1, found.2)
  | c :: rest =>
      if c.toNat < 0x20 then ([], .control p c)
      else
        let found := units (p.past c) rest
        (.plain c (p.past c) :: found.1, found.2)

/-- Whether a code unit is the first half of a pair. -/
def isHigh (n : Nat) : Bool := 0xD800 ≤ n && n ≤ 0xDBFF

/-- Whether a code unit is the second half of a pair. -/
def isLow (n : Nat) : Bool := 0xDC00 ≤ n && n ≤ 0xDFFF

/-- The characters that units spell, surrogates taken in pairs. -/
def characters (stringEnd : StringEnd) : List StringUnit → Except Fault (List Char)
  | [] => match stringEnd.read with
    | none => .ok []
    | some fault => .error fault
  | .plain c _ :: rest | .escaped c _ :: rest => (characters stringEnd rest).map (c :: ·)
  | .code n stop :: rest =>
      if isLow n then .error (.at stop .loneSurrogate)
      else if isHigh n then
        match rest with
        | [] => .error (stringEnd.unpaired stop)
        | .plain c _ :: _ => .error (.at (stop.touch c) .endOfHexEscape)
        | .escaped _ stop :: _ => .error (.at stop .endOfHexEscape)
        | .code low stop :: rest =>
            if isLow low then
              (characters stringEnd rest).map
                (Char.ofNat (0x10000 + (n - 0xD800) * 0x400 + (low - 0xDC00)) :: ·)
            else .error (.at stop .loneSurrogate)
      else (characters stringEnd rest).map (Char.ofNat n :: ·)

end Quotation

end Dossier.Json
