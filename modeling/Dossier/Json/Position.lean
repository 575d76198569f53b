/-! # Positions in a text

A position counts lines from one and, within a line, bytes of the UTF-8 form from zero. It lies after
the part of the text that has been taken.
-/

namespace Dossier.Json

/-- How much of a text has been taken. -/
structure Position where
  line : Nat
  column : Nat
  deriving Repr, DecidableEq, Inhabited

namespace Position

def start : Position := ⟨1, 0⟩

def past (p : Position) (c : Char) : Position :=
  if c = '\n' then ⟨p.line + 1, 0⟩ else ⟨p.line, p.column + c.utf8Size⟩

/-- The position after the first byte of a character, where a fault in it is reported. -/
def touch (p : Position) (c : Char) : Position :=
  if c = '\n' then ⟨p.line + 1, 0⟩ else ⟨p.line, p.column + 1⟩

/-- The position some bytes further on in a line. -/
def skip (p : Position) (bytes : Nat) : Position :=
  ⟨p.line, p.column + bytes⟩

/-- Whether a position lies in front of another. -/
def before (p q : Position) : Bool :=
  p.line < q.line || (p.line == q.line && p.column < q.column)

/-- Whether a text has so many bytes, and the position after them, or else the end of the text. -/
def pastBytes (p : Position) : Nat → List Char → Bool × Position
  | 0, _ => (true, p)
  | _ + 1, [] => (false, p)
  | bytes + 1, c :: rest =>
      if c.utf8Size ≤ bytes + 1 then pastBytes (p.past c) (bytes + 1 - c.utf8Size) rest
      else (true, p.skip (bytes + 1))

end Position

end Dossier.Json
