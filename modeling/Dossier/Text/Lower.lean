/-! # Lower case

The lower case of the letters A to Z, and of the one other letter whose lower case is among a to z:
the kelvin sign. Option names hold no other letters, so for them this is all of case folding.
-/

namespace Dossier.Text

def lowerChar (c : Char) : Char :=
  if c = '\u212A' then 'k' else c.toLower

def lower (s : String) : String :=
  s.map lowerChar

end Dossier.Text
