import Dossier.Failure.Basic
import Dossier.Row.Basic

/-! # Tables

Rows as records of text cells in a file. Every field is written as text and read back by its own
reader. The reader of timestamps is stricter than the one of messages, so a row with a year of more
than four digits, or before the year zero, can be written and not read.
-/

namespace Dossier

inductive Cell where
  | text (s : String)
  | bytes (bs : List UInt8)
  deriving Repr, DecidableEq

structure Record where
  documentId : Cell
  processorId : Cell
  status : Cell
  result : Cell
  timestamp : Cell
  deriving Repr, DecidableEq

namespace Record

def ofRow (r : Row) : Record where
  documentId := .text r.documentId.text
  processorId := .text r.processorId
  status := .text r.status.text
  result := .text r.result.text
  timestamp := .text r.timestamp.storedText

def cellText (index : Nat) (column : String) : Cell → Except EngineFault String
  | .text s => .ok s
  | .bytes _ => .error (.columnType index column)

/-- The row of a record. The cells are looked at from left to right, first for being text. -/
def row (r : Record) : Except EngineFault Row := do
  let documentId ← cellText 0 "document_id" r.documentId
  let processorId ← cellText 1 "processor_id" r.processorId
  let status ← cellText 2 "status" r.status
  let result ← cellText 3 "result" r.result
  let timestamp ← cellText 4 "timestamp" r.timestamp
  let documentId ← (Uuid.read documentId).mapError fun fault => .conversion 0 fault.message
  let result ← (Payload.read result).mapError fun fault => .conversion 3 fault.message
  let timestamp ← (Timestamp.readStrict timestamp).mapError fun fault => .conversion 4 fault.message
  return ⟨documentId, processorId, .ofText status, result, timestamp⟩

/-- The cells of a record, from left to right. -/
def cells (r : Record) : List Cell :=
  [r.documentId, r.processorId, r.status, r.result, r.timestamp]

def ofCells? : List Cell → Option Record
  | [documentId, processorId, status, result, timestamp] =>
      some ⟨documentId, processorId, status, result, timestamp⟩
  | _ => none

end Record

/-- A file with the table of rows, or one that has lost its table. -/
structure Table where
  records : Option (List Record)
  deriving Repr, DecidableEq

namespace Table

def empty : Table := ⟨some []⟩

def name : String := "document_processor_results"

/-- The most processors that one question can list, one of 32766 variables being the document. -/
def mostProcessors : Nat := 32765

def all (t : Table) : Except DatabaseFailure (List Record) :=
  match t.records with
  | some records => .ok records
  | none => .error (.query (.noTable name))

def insert (t : Table) (record : Record) : Except DatabaseFailure Table := do
  return ⟨some ((← t.all) ++ [record])⟩

def save (t : Table) (row : Row) : Except DatabaseFailure Table :=
  t.insert (.ofRow row)

/-- The rows of records. One that cannot be read fails them all. -/
def rows (records : List Record) : Except DatabaseFailure (List Row) :=
  (records.mapM Record.row).mapError .query

def find (t : Table) (documentId : Uuid) : Except DatabaseFailure (List Row) := do
  rows ((← t.all).filter fun record => record.documentId == .text documentId.text)

def holdsOneOf (texts : List String) : Cell → Bool
  | .text s => texts.contains s
  | .bytes _ => false

def findFrom (t : Table) (documentId : Uuid) (processorIds : List String) :
    Except DatabaseFailure (List Row) :=
  if processorIds.isEmpty then .ok []
  else if mostProcessors < processorIds.length then .error (.query .tooManyVariables)
  else do
    rows ((← t.all).filter fun record =>
      record.documentId == .text documentId.text && holdsOneOf processorIds record.processorId)

/-- The table of a file that is opened again, which is made if it is missing. -/
def reopen (t : Table) : Table := ⟨some (t.records.getD [])⟩

end Table

inductive Place where
  | nothing
  | file (table : Table)
  /-- A table of the same name with other columns. -/
  | otherColumns
  /-- A file that is no database. -/
  | otherFile
  | directory
  /-- The directory of the path is a file. -/
  | noDirectory
  deriving Repr, DecidableEq

/-- The complaint about a table whose columns are others: its first one is looked for when the indexes
are made. -/
def otherColumnsMessage : String :=
  "no such column: document_id in \n\n" ++
    "        CREATE INDEX IF NOT EXISTS idx_results_document\n" ++
    "            ON document_processor_results(document_id);\n" ++
    "        CREATE INDEX IF NOT EXISTS idx_results_document_processor\n" ++
    "            ON document_processor_results(document_id, processor_id);\n" ++
    "     at offset 100"

/-- The table at a path. A missing one is made. -/
def Place.open : Place → Except DatabaseFailure Table
  | .nothing => .ok .empty
  | .file table => .ok table.reopen
  | .otherColumns => .error (.migration otherColumnsMessage)
  | .otherFile => .error (.query .notADatabase)
  | .directory => .error (.connection .cannotOpen)
  | .noDirectory => .error (.connection .noDirectory)

end Dossier
