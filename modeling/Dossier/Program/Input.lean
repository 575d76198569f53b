import Dossier.Text.Utf8

/-! # Input

The lines of a stream of bytes. A line ends with a line feed, or a carriage return and a line feed, or
with the stream. Reading stops for good at the first line that is not text.
-/

namespace Dossier.Program

def lineFeed : UInt8 := 10

/-- The number of the byte that may stand in front of it. -/
def carriageReturn : UInt8 := 13

/-- The bytes of a line without its end. -/
def stripReturn (line : List UInt8) : List UInt8 :=
  if line.getLast? = some carriageReturn then line.dropLast else line

/-- The lines of bytes; `begun` holds what is known already of the first of them, the last byte in
front. -/
def splitLines (begun : List UInt8) : List UInt8 → List (List UInt8)
  | [] => if begun.isEmpty then [] else [begun.reverse]
  | byte :: rest =>
      if byte = lineFeed then stripReturn begun.reverse :: splitLines [] rest
      else splitLines (byte :: begun) rest

/-- The texts of lines up to the first that is not text. -/
def textLines : List (List UInt8) → List String
  | [] => []
  | line :: rest => match Text.ofUtf8? line with
    | some text => text :: textLines rest
    | none => []

def lines (bytes : List UInt8) : List String :=
  textLines (splitLines [] bytes)

end Dossier.Program
