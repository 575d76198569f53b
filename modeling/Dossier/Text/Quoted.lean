import Dossier.Number.Digits
import Dossier.Text.Invisible

/-! # Quoted text

The form in which a diagnostic shows a text: between quotes, on one line, and with every character
that cannot be seen spelt by its number.
-/

namespace Dossier.Text

/-- A character as it stands between quotes. -/
def quotedChar (c : Char) : List Char :=
  if c = '"' then ['\\', '"']
  else if c = '\\' then ['\\', '\\']
  else if c = '\n' then ['\\', 'n']
  else if c = '\r' then ['\\', 'r']
  else if c = '\t' then ['\\', 't']
  else if c = '\x00' then ['\\', '0']
  else if c.toNat < 0x20 || c.toNat == 0x7F || (0x7F < c.toNat && isInvisible c) then
    ['\\', 'u', '\x7b'] ++ Number.hexDigits 1 c.toNat ++ ['\x7d']
  else [c]

def quoted (s : String) : String :=
  String.ofList ('"' :: s.toList.flatMap quotedChar ++ ['"'])

/-- Texts between quotes, in a bracketed list. -/
def quotedList (ss : List String) : String :=
  "[" ++ String.intercalate ", " (ss.map quoted) ++ "]"

end Dossier.Text
