import Dossier.Number.Literal
import Dossier.Settings.Path
import Dossier.Text.Lower

/-! # Settings from the environment

Variables whose names begin with `DOCPROC__`, in any case, set what the rest of their names means, two
underscores standing for a dot. Values are text; those that look like truth values or numbers are taken
as such.
-/

namespace Dossier.Settings

/-- How the names of variables begin that are settings, in lower case. -/
def variableStart : List Char := "docproc__".toList

/-- The text with every pair of underscores replaced by a dot. -/
def dotted : List Char → List Char
  | '_' :: '_' :: rest => '.' :: dotted rest
  | c :: rest => c :: dotted rest
  | [] => []

/-- The name that a variable sets, if it is a setting. -/
def settingName? (variableName : String) : Option String :=
  let name := (Text.lower variableName).toList
  if variableStart.isPrefixOf name then
    some (String.ofList (dotted (name.drop variableStart.length)))
  else none

def scalarOfText (s : String) : Scalar :=
  let chars := s.toList
  match Text.lower s with
  | "true" => .bool true
  | "false" => .bool false
  | _ =>
      let whole := (Number.readInt? chars).filter Number.fitsWord
      match whole with
      | some n => .whole n
      | none => match Number.readReal? chars with
        | some x => .real x
        | none => .text s

/-- The entry of a variable, and the path at which it is put. -/
def readVariable? (pair : String × String) : Option (List Step × Entry) :=
  (settingName? pair.1).map fun name =>
    (readPath name, .scalar (some .environment) (scalarOfText pair.2))

end Dossier.Settings
