import Dossier.Proofs.Service.Requesting
import Dossier.Proofs.Store.Documents

/-! # Known pairs

Whether a store has a row of a document and a processor, whatever else is in the row. A question that is answered
tells it of all processors that are asked for, and to save a row makes the pair of the row known and no other. Main
statements: `filter_findFrom` and `knows_save`.
-/

namespace Dossier

theorem Cell.text_beq (s t : String) : (Cell.text s == Cell.text t) = (s == t) := by
  rw [Bool.eq_iff_iff, beq_iff_eq, beq_iff_eq, Cell.text.injEq]

/-- Whether a record is one of a document and a processor. -/
def Record.isOf (documentId : Uuid) (processorId : String) (record : Record) : Bool :=
  record.documentId == .text documentId.text && record.processorId == .text processorId

theorem Record.isOf_ofRow (documentId : Uuid) (processorId : String) (row : Row) :
    (Record.ofRow row).isOf documentId processorId = row.isOf documentId processorId := by
  have document := Store.documentId_ofRow row documentId
  have processor : ((ofRow row).processorId == Cell.text processorId) = (row.processorId == processorId) :=
    Cell.text_beq row.processorId processorId
  rw [isOf, Row.isOf, document, processor]

/-- A record that is read has the processor of its row as text. -/
theorem Record.processorId_of_row {record : Record} {row : Row} (read : record.row = .ok row) :
    record.processorId = .text row.processorId := by
  simp only [Record.row, bind_eq_ok] at read
  obtain ⟨_, _, processorId, text, _, _, _, _, _, _, _, _, _, _, _, _, same⟩ := read
  cases same
  cases found : record.processorId with
  | text s =>
      rw [found] at text
      cases text
      rfl
  | bytes bs =>
      rw [found] at text
      cases text

namespace Store

variable {documentId : Uuid} {processorId : String} {s after : Store} {row : Row}

/-- Whether a store has a row of a document and a processor. -/
def knows (documentId : Uuid) (processorId : String) : Store → Bool
  | .memory rows => rows.any (Row.isOf documentId processorId)
  | .table t => (t.records.getD []).any (Record.isOf documentId processorId)

theorem knows_of (s : Store) : (s.of documentId).knows documentId processorId = s.knows documentId processorId := by
  cases s with
  | memory rows =>
      simp only [of, knows, List.any_filter]
      congr 1
      funext row
      simp [Row.isOf]
  | table t =>
      obtain ⟨records⟩ := t
      cases records with
      | none => rfl
      | some records =>
          simp only [of, knows, Option.map_some, Option.getD_some, List.any_filter]
          congr 1
          funext record
          simp [Record.isOf]

theorem knows_save (saved : s.save row = .ok after) :
    after.knows documentId processorId = (s.knows documentId processorId || row.isOf documentId processorId) := by
  cases s with
  | memory rows =>
      cases saved
      simp [knows]
  | table t =>
      obtain ⟨records⟩ := t
      cases records with
      | none => cases saved
      | some records =>
          cases saved
          simp [knows, Record.isOf_ofRow]

theorem any_of_rows {records : List Record} {rows : List Row} (read : Table.rows records = .ok rows)
    (processorId : String) :
    rows.any (·.processorId == processorId) = records.any (·.processorId == .text processorId) := by
  rw [Table.rows, mapError_eq_ok, mapM_eq_ok] at read
  induction read with
  | nil => rfl
  | @cons record row records rows first others ih =>
      rw [List.any_cons, List.any_cons, ih, Record.processorId_of_row first, Cell.text_beq]

/-- The processors of whom a question finds no rows are those that are not known. -/
theorem filter_findFrom {processorIds : List String} {existing : List Row}
    (found : s.findFrom documentId processorIds = .ok existing) :
    (processorIds.filter fun id => !existing.any (·.processorId == id)) =
      processorIds.filter fun id => !s.knows documentId id := by
  apply List.filter_congr
  intro id listed
  congr 1
  cases s with
  | memory rows =>
      cases found
      simp only [knows, List.any_filter]
      congr 1
      funext row
      by_cases named : row.processorId = id
      · simp [Row.isOf, named, listed]
      · simp [Row.isOf, beq_eq_false_iff_ne.mpr named]
  | table t =>
      obtain ⟨records⟩ := t
      simp only [findFrom, Table.findFrom] at found
      split at found
      · rename_i none
        rw [List.isEmpty_iff.mp none] at listed
        cases listed
      · split at found
        · cases found
        · cases records with
          | none => cases found
          | some records =>
              rw [any_of_rows found]
              simp only [knows, Option.getD_some, List.any_filter]
              congr 1
              funext record
              by_cases named : record.processorId = .text id
              · simp [Record.isOf, named, Table.holdsOneOf, listed]
              · simp [Record.isOf, beq_eq_false_iff_ne.mpr named]

end Store

end Dossier
