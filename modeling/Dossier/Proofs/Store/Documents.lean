import Dossier.Proofs.Store.Contents

/-! # What a store has of a document

The rows or records of one document in a store. Questions for the document are answered from them, and to save a row
changes those of its own document only. A table that is lost has lost them all. Main statements: `find_of` and
`save_of`.
-/

namespace Dossier.Store

variable {documentId other : Uuid} {s after : Store} {row : Row}

/-- The store with nothing but what it has of a document. -/
def of (documentId : Uuid) : Store → Store
  | .memory rows => .memory (rows.filter (·.documentId == documentId))
  | .table t => .table ⟨t.records.map fun records =>
      records.filter (·.documentId == .text documentId.text)⟩

theorem find_of (documentId : Uuid) (s : Store) : (s.of documentId).find documentId = s.find documentId := by
  cases s with
  | memory rows => simp only [of, find, List.filter_filter, Bool.and_self]
  | table t =>
      obtain ⟨records⟩ := t
      cases records with
      | none => rfl
      | some records =>
          simp only [of, find, Table.find, Table.all, Option.map_some, bind, Except.bind,
            List.filter_filter, Bool.and_self]

theorem findFrom_of (documentId : Uuid) (processorIds : List String) (s : Store) :
    (s.of documentId).findFrom documentId processorIds = s.findFrom documentId processorIds := by
  cases s with
  | memory rows =>
      simp only [of, findFrom, List.filter_filter]
      congr 2
      funext row
      cases row.documentId == documentId with
      | true => simp
      | false => rfl
  | table t =>
      obtain ⟨records⟩ := t
      cases records with
      | none => rfl
      | some records =>
          simp only [of, findFrom, Table.findFrom, Table.all, Option.map_some, bind, Except.bind,
            List.filter_filter]
          congr 5
          funext record
          cases record.documentId == .text documentId.text with
          | true => simp
          | false => rfl

/-- A row is saved among those of its document. -/
theorem save_of (own : row.documentId = documentId) (s : Store) :
    (s.of documentId).save row = (s.save row).map (·.of documentId) := by
  subst own
  cases s with
  | memory rows =>
      have kept : [row].filter (·.documentId == row.documentId) = [row] := by simp
      simp only [of, save, Except.map, List.filter_append, kept]
  | table t =>
      obtain ⟨records⟩ := t
      cases records with
      | none => rfl
      | some records =>
          have kept : [Record.ofRow row].filter (·.documentId == .text row.documentId.text) =
              [Record.ofRow row] := by simp [Record.ofRow]
          simp only [of, save, Table.save, Table.insert, Table.all, Option.map_some, bind, Except.bind,
            Except.map, pure, Except.pure, List.filter_append, kept]

/-- What a store has of other documents stays as it is. -/
theorem of_of_save (different : row.documentId ≠ other) (saved : s.save row = .ok after) :
    after.of other = s.of other := by
  cases s with
  | memory rows =>
      cases saved
      have gone : [row].filter (·.documentId == other) = [] := by simp [different]
      simp only [of, List.filter_append, gone, List.append_nil]
  | table t =>
      obtain ⟨records⟩ := t
      cases records with
      | none => cases saved
      | some records =>
          cases saved
          have gone : [Record.ofRow row].filter (·.documentId == .text other.text) = [] := by
            rw [List.filter_cons, documentId_ofRow, beq_false_of_ne different]
            rfl
          simp only [of, Option.map_some, List.filter_append, gone, List.append_nil]

end Dossier.Store
