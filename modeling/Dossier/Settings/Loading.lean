import Dossier.Failure.Basic
import Dossier.Json.Reader
import Dossier.Settings.Decode
import Dossier.Settings.Environment
import Dossier.Toml.Reader

/-! # Loading settings

Settings come from one file, `config.toml` or else `config.json`, and from the environment, which
prevails over the file. What neither of them sets is as it is by default. Files of other formats are left out.
-/

namespace Dossier.Settings

/-- The members that a file of a format holds, if it can be read. -/
abbrev FileReader := Source → String → Option (List (String × Entry))

def readTomlFile : FileReader := fun source text =>
  (Toml.read? text).map (Entry.ofTomlMembers source)

/-- The members of a JSON file, which must be an object. -/
def readJsonFile : FileReader := fun source text =>
  match Json.read text with
  | .ok (.object members) => some (Entry.ofJsonMembers source members)
  | _ => none

/-- The files of settings; the first one that is there counts. The library that looks for them also takes
`config.yaml`, `config.yml`, `config.ini`, `config.ron` and `config.json5`; no reader of these formats is modelled,
so `load` says what is loaded where none of them is there. -/
def files : List (String × FileReader) :=
  [("config.toml", readTomlFile), ("config.json", readJsonFile)]

/-- The text of a file without the mark of the byte order that may stand in front of it. -/
def dropMark (text : String) : String :=
  match text.toList with
  | '\uFEFF' :: rest => String.ofList rest
  | _ => text

/-- The members of the file that counts; none, if there is no file. -/
def readFile? (given : List (String × String)) : Option (List (String × Entry)) :=
  match files.find? fun file => (given.lookup file.1).isSome with
  | none => some []
  | some (name, read) => (given.lookup name).bind fun text => read (.file name) (dropMark text)

/-- The tree of all sources. -/
def gather? (given environment : List (String × String)) : Option Entry := do
  let fromFile ← readFile? given
  let parts := fromFile.map (fun (name, entry) => (readPath name, entry)) ++
    environment.filterMap readVariable?
  return parts.foldl (fun tree (path, entry) => Entry.put entry path tree) (.table none [])

inductive LoadFault where
  /-- The file cannot be read. -/
  | unreadable
  /-- What the sources say together are no settings. -/
  | undecodable (fault : Fault)
  deriving Repr, DecidableEq

/-- The failure of the service that cannot be set up. -/
def LoadFault.toFailure : LoadFault → ServiceFailure
  | .unreadable => .config "Failed to build config"
  | .undecodable fault => .config ("Failed to deserialize config: " ++ fault.message)

/-- The settings in the given files, by name, and in an environment. -/
def load (given environment : List (String × String)) : Except LoadFault Settings :=
  match gather? given environment with
  | none => .error .unreadable
  | some tree => (decode "" tree).mapError .undecodable

end Dossier.Settings
