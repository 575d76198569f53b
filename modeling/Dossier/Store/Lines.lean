import Dossier.Store.Table

/-! # Tables as lines

The text of a table: one line for a record, which is a JSON array of its cells. A cell of bytes is an
array of numbers.
-/

namespace Dossier

def Cell.toJson : Cell → Json
  | .text s => .string s
  | .bytes bs => .array (bs.map fun b => .number (.whole b.toNat))

def Cell.ofJson? : Json → Option Cell
  | .string s => some (.text s)
  | .array items => (items.mapM byte?).map .bytes
  | _ => none
where
  /-- The byte of a number. -/
  byte? : Json → Option UInt8
    | .number (.whole n) => if 0 ≤ n ∧ n < 256 then some n.toNat.toUInt8 else none
    | _ => none

def Record.line (r : Record) : String :=
  (Json.array (r.cells.map Cell.toJson)).text

def Record.ofLine? (line : String) : Option Record :=
  match Json.read line with
  | .ok (.array items) => (items.mapM Cell.ofJson?).bind Record.ofCells?
  | _ => none

/-- The text of a table; one that is lost has none. -/
def Table.text (t : Table) : String :=
  String.join ((t.records.getD []).map fun record => record.line ++ "\n")

/-- The place that a file with a text is: a table, unless there is a line that is no record. -/
def Place.ofText (text : String) : Place :=
  let lines := (text.splitOn "\n").filter (· ≠ "")
  match lines.mapM Record.ofLine? with
  | some records => .file ⟨some records⟩
  | none => .otherFile

end Dossier
