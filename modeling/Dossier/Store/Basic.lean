import Dossier.Store.Table

/-! # Stores

Where rows are kept: in memory, or in a table. Rows are only ever added; nothing makes a pair of
document and processor unique.
-/

namespace Dossier

inductive Store where
  | memory (rows : List Row)
  | table (table : Table)
  deriving Repr

namespace Store

def empty : Store := .memory []

def save : Store → Row → Except DatabaseFailure Store
  | .memory rows, row => .ok (.memory (rows ++ [row]))
  | .table t, row => (t.save row).map .table

/-- The rows of a document, in the order in which they were saved. -/
def find : Store → Uuid → Except DatabaseFailure (List Row)
  | .memory rows, documentId => .ok (rows.filter (·.documentId == documentId))
  | .table t, documentId => t.find documentId

/-- The rows of a document from some processors, in the order in which they were saved. -/
def findFrom : Store → Uuid → List String → Except DatabaseFailure (List Row)
  | .memory rows, documentId, processorIds =>
      .ok (rows.filter fun row => row.documentId == documentId && processorIds.contains row.processorId)
  | .table t, documentId, processorIds => t.findFrom documentId processorIds

end Store

end Dossier
