import Dossier.Toml.Value

/-! # TOML tables

How a table comes of headers and of keys with dots. A table may be filled from several places only as
long as nobody has finished it: a value is finished at once, a table under a header is headed once, and
keys with dots add only to tables that such keys have made.
-/

namespace Dossier.Toml

/-- How a table came to be. -/
inductive Making where
  /-- As a part of a longer header. -/
  | implied
  /-- As a part of a key with dots. -/
  | dotted
  /-- Under a header of its own. -/
  | headed
  deriving Repr, DecidableEq

/-- A value while the text is read. -/
inductive Draft where
  | value (v : Toml)
  | table (making : Making) (members : List (String × Draft))
  /-- Tables under one header; the last is being filled. -/
  | tables (done : List (List (String × Draft))) (last : List (String × Draft))

abbrev Members := List (String × Draft)

namespace Draft

def replace (key : String) (draft : Draft) (members : Members) : Members :=
  members.map fun (k, d) => if k == key then (k, draft) else (k, d)

/-- Changes the table at the end of a header, making those on the way. -/
def changeAt? (change : Members → Option Members) : List String → Members → Option Members
  | [], members => change members
  | key :: path, members => match members.lookup key with
    | none => (changeAt? change path []).map fun inner => members ++ [(key, .table .implied inner)]
    | some (.value _) => none
    | some (.table making inner) =>
        (changeAt? change path inner).map fun inner => replace key (.table making inner) members
    | some (.tables done last) =>
        (changeAt? change path last).map fun last => replace key (.tables done last) members

/-- Puts a value under a key, perhaps with dots; `fit` tells whether it may be put right here. -/
def put? (v : Toml) : Bool → List String → Members → Option Members
  | _, [], _ => none
  | fit, [key], members =>
      if fit && (members.lookup key).isNone then some (members ++ [(key, .value v)]) else none
  | _, key :: path, members => match members.lookup key with
    | none => (put? v true path []).map fun inner => members ++ [(key, .table .dotted inner)]
    | some (.value _) | some (.table .headed _) => none
    | some (.table making inner) =>
        (put? v (making == .dotted) path inner).map fun inner =>
          replace key (.table making inner) members
    | some (.tables done last) =>
        (put? v false path last).map fun last => replace key (.tables done last) members

def beginTable? (key : String) (members : Members) : Option Members :=
  match members.lookup key with
  | none => some (members ++ [(key, .table .headed [])])
  | some (.table .implied inner) => some (replace key (.table .headed inner) members)
  | some _ => none

/-- Begins one more table of a header. -/
def beginNext? (key : String) (members : Members) : Option Members :=
  match members.lookup key with
  | none => some (members ++ [(key, .tables [] [])])
  | some (.tables done last) => some (replace key (.tables (done ++ [last]) []) members)
  | some _ => none

mutual
def finish : Draft → Toml
  | .value v => v
  | .table _ members => .table (finishMembers members)
  | .tables done last => .array (finishTables done ++ [.table (finishMembers last)])

def finishMembers : List (String × Draft) → List (String × Toml)
  | [] => []
  | (key, draft) :: rest => (key, draft.finish) :: finishMembers rest

def finishTables : List (List (String × Draft)) → List Toml
  | [] => []
  | members :: rest => .table (finishMembers members) :: finishTables rest
end

end Draft

/-- The table of pairs of keys, perhaps with dots, and values. -/
def tableOfPairs? (pairs : List (List String × Toml)) : Option (List (String × Toml)) :=
  (pairs.foldlM (fun members (path, v) => Draft.put? v true path members) []).map
    Draft.finishMembers

inductive Line where
  /-- The table that follows. -/
  | header (path : List String)
  /-- One more table that follows. -/
  | nextHeader (path : List String)
  | pair (path : List String) (v : Toml)

/-- Takes one more line; `here` is the header that it stands under. -/
def addLine? : List String × Members → Line → Option (List String × Members)
  | (_, members), .header path => do
      let key ← path.getLast?
      return (path, ← Draft.changeAt? (Draft.beginTable? key) path.dropLast members)
  | (_, members), .nextHeader path => do
      let key ← path.getLast?
      return (path, ← Draft.changeAt? (Draft.beginNext? key) path.dropLast members)
  | (here, members), .pair path v => do
      return (here, ← Draft.changeAt? (Draft.put? v true path) here members)

def tableOfLines? (lines : List Line) : Option (List (String × Toml)) :=
  (lines.foldlM addLine? ([], [])).map fun state => Draft.finishMembers state.2

end Dossier.Toml
