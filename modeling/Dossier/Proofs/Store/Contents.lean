import Dossier.Proofs.Store.Record
import Dossier.Store.Basic

/-! # The rows of a store

A store in memory and a table may hold the same rows, and find the same ones of them. A table has to read
back what it finds.
-/

namespace Dossier.Store

/-- The table of some rows. -/
def tableOf (rows : List Row) : Store :=
  .table ⟨some (rows.map Record.ofRow)⟩

variable {rows : List Row}

theorem rows_map_ofRow (storable : ∀ row ∈ rows, row.Storable) :
    ((∀ row ∈ rows, row.timestamp.HasPlainYear) →
      Table.rows (rows.map Record.ofRow) = .ok rows) ∧
    ((∃ row ∈ rows, ¬row.timestamp.HasPlainYear) →
      ∃ fault, Table.rows (rows.map Record.ofRow) = .error (.query fault)) := by
  unfold Table.rows
  constructor
  · intro plain
    rw [Record.mapM_row storable plain]
    rfl
  · intro other
    obtain ⟨fault, failed⟩ := Record.mapM_row_error storable other
    exact ⟨fault, by rw [failed]; rfl⟩

theorem documentId_ofRow (row : Row) (documentId : Uuid) :
    ((Record.ofRow row).documentId == Cell.text documentId.text) = (row.documentId == documentId) := by
  rw [Bool.eq_iff_iff, beq_iff_eq, beq_iff_eq, Record.ofRow, Cell.text.injEq]
  exact Uuid.text_injective.eq_iff

theorem holdsOneOf_ofRow (row : Row) (processorIds : List String) :
    Table.holdsOneOf processorIds (Record.ofRow row).processorId =
      processorIds.contains row.processorId :=
  rfl

/-- A table finds the records of the rows that memory finds. -/
theorem find_tableOf (rows : List Row) (documentId : Uuid) :
    find (tableOf rows) documentId =
      Table.rows ((rows.filter (·.documentId == documentId)).map Record.ofRow) := by
  have found : (rows.map Record.ofRow).filter (fun record =>
        record.documentId == .text documentId.text) =
      (rows.filter (·.documentId == documentId)).map Record.ofRow := by
    simp only [List.filter_map, Function.comp_def, documentId_ofRow]
  simp only [find, tableOf, Table.find, Table.all, bind, Except.bind, found]

theorem findFrom_tableOf (rows : List Row) (documentId : Uuid) {processorIds : List String}
    (few : processorIds.length ≤ Table.mostProcessors) :
    findFrom (tableOf rows) documentId processorIds =
      Table.rows ((rows.filter fun row => row.documentId == documentId &&
        processorIds.contains row.processorId).map Record.ofRow) := by
  have found : (rows.map Record.ofRow).filter (fun record =>
        record.documentId == .text documentId.text &&
          Table.holdsOneOf processorIds record.processorId) =
      (rows.filter fun row => row.documentId == documentId &&
        processorIds.contains row.processorId).map Record.ofRow := by
    simp only [List.filter_map, Function.comp_def, documentId_ofRow, holdsOneOf_ofRow]
  simp only [findFrom, tableOf, Table.findFrom]
  split
  · rename_i none
    have nothing : (rows.filter fun row => row.documentId == documentId &&
        processorIds.contains row.processorId) = [] := by
      simp [List.isEmpty_iff.mp none]
    rw [nothing]
    rfl
  · rw [if_neg (by omega)]
    simp only [Table.all, bind, Except.bind, found]

/-- Whether a store holds some rows, in the order in which they were saved. -/
inductive Holds : Store → List Row → Prop where
  | memory (rows : List Row) : Holds (.memory rows) rows
  | table (rows : List Row) : Holds (tableOf rows) rows

/-- A row as a store gives it back. -/
def givenBack (s : Store) (row : Row) : Except DatabaseFailure Row :=
  match s with
  | .memory _ => .ok row
  | .table _ => (Record.ofRow row).row.mapError .query

variable {s after : Store} {row back : Row}

theorem mapM_ok (rows : List Row) : rows.mapM (m := Except DatabaseFailure) .ok = .ok rows := by
  induction rows with
  | nil => rfl
  | cons row rows ih =>
      rw [List.mapM_cons, ih]
      rfl

theorem rows_eq_mapM (rows : List Row) :
    Table.rows (rows.map Record.ofRow) =
      rows.mapM fun row => (Record.ofRow row).row.mapError DatabaseFailure.query := by
  induction rows with
  | nil => rfl
  | cons row rows ih =>
      rw [List.mapM_cons, ← ih, Table.rows, Table.rows, List.map_cons, List.mapM_cons]
      cases (Record.ofRow row).row with
      | error fault => rfl
      | ok back =>
          cases (rows.map Record.ofRow).mapM Record.row with
          | error fault => rfl
          | ok backs => rfl

/-- A store finds the rows of a document that it holds, as it gives them back. -/
theorem Holds.find {rows : List Row} (holds : s.Holds rows) (documentId : Uuid) :
    s.find documentId = (rows.filter (·.documentId == documentId)).mapM s.givenBack := by
  cases holds with
  | memory => exact (mapM_ok _).symm
  | table => rw [find_tableOf, rows_eq_mapM]; rfl

theorem Holds.save {rows : List Row} (holds : s.Holds rows) (row : Row) :
    ∃ after, s.save row = .ok after ∧ after.Holds (rows ++ [row]) ∧ after.givenBack = s.givenBack := by
  cases holds with
  | memory => exact ⟨_, rfl, .memory _, rfl⟩
  | table =>
      refine ⟨tableOf (rows ++ [row]), ?_, .table _, rfl⟩
      simp only [tableOf, List.map_append]
      rfl

/-- What a store gives back of a legible row has its keys, its status and its timestamp. -/
theorem givenBack_ok (legible : row.Legible) (h : s.givenBack row = .ok back) :
    back.documentId = row.documentId ∧ back.processorId = row.processorId ∧
      back.status = row.status ∧ back.timestamp = row.timestamp := by
  cases s with
  | memory rows =>
      cases h
      exact ⟨rfl, rfl, rfl, rfl⟩
  | table =>
      rw [givenBack, mapError_eq_ok, Record.row_ofRow_ok legible] at h
      obtain ⟨-, result, -, rfl⟩ := h
      exact ⟨rfl, rfl, rfl, rfl⟩

end Dossier.Store
