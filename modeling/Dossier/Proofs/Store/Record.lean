import Dossier.Proofs.Row.Sound
import Dossier.Proofs.Timestamp.Stored
import Dossier.Proofs.Uuid
import Dossier.Store.Table

/-! # Reading records back

A row that was written as a record is read back as it was, unless its year is not one of four digits: then
the record cannot be read. Main statements: `row_ofRow` and `row_ofRow_error`.
-/

namespace Dossier

open Json

/-- Whether a row is one that a table can hold: a sound row whose numbers are read back from their own
texts. -/
structure Row.Storable (row : Row) : Prop extends Row.Sound row where
  numbers : row.result.toJson.Every KeepsNumber

theorem Payload.read_text {p : Payload} (numbers : p.toJson.Every KeepsNumber)
    (order : p.toJson.Every KeepsOrder) (depth : p.toJson.depth ≤ depthLimit) :
    Payload.read p.text = .ok p := by
  apply decode_text numbers
  intro node spells
  rw [Payload.decode]
  simp only [Stage.whole, decodeMembers_ok spells order depth, Except.map]

namespace Record

variable {row : Row}

/-- A row is read back just if it has a plain year and its payload is read, which then is the payload of
what is read back. -/
theorem row_ofRow_ok {back : Row} (legible : row.Legible) :
    (ofRow row).row = .ok back ↔ row.timestamp.HasPlainYear ∧
      ∃ result, Payload.read row.result.text = .ok result ∧ back = { row with result } := by
  obtain ⟨text, status⟩ := legible.status
  simp only [Record.row, ofRow, cellText, bind_eq_ok, mapError_eq_ok, Except.ok.injEq,
    exists_eq_left', Uuid.read_text]
  constructor
  · rintro ⟨result, read, time, strict, same⟩
    by_cases plain : row.timestamp.HasPlainYear
    · rw [Timestamp.readStrict_storedText plain] at strict
      cases strict
      refine ⟨plain, result, read, ?_⟩
      rw [← Except.ok.inj same, status, Status.text_ofText, ← status]
    · obtain ⟨fault, failed⟩ := Timestamp.readStrict_stored_year plain
      rw [failed] at strict
      cases strict
  · rintro ⟨plain, result, read, rfl⟩
    refine ⟨result, read, row.timestamp, Timestamp.readStrict_storedText plain, ?_⟩
    rw [status, Status.text_ofText, ← status]
    rfl

/-- A row with a plain year is read back. -/
theorem row_ofRow (storable : row.Storable) (plain : row.timestamp.HasPlainYear) :
    (ofRow row).row = .ok row := by
  have read := Payload.read_text storable.numbers storable.order storable.depth
  exact (row_ofRow_ok storable.legible).mpr ⟨plain, row.result, read, rfl⟩

/-- A row with another year is not. -/
theorem row_ofRow_error (storable : row.Storable) (other : ¬row.timestamp.HasPlainYear) :
    ∃ fault, (ofRow row).row = .error fault := by
  cases read : (ofRow row).row with
  | error fault => exact ⟨fault, rfl⟩
  | ok back => exact absurd ((row_ofRow_ok storable.legible).mp read).1 other

theorem mapM_row {rows : List Row} (storable : ∀ row ∈ rows, row.Storable)
    (plain : ∀ row ∈ rows, row.timestamp.HasPlainYear) :
    (rows.map ofRow).mapM Record.row = .ok rows := by
  induction rows with
  | nil => rfl
  | cons row rows ih =>
      obtain ⟨first, others⟩ := List.forall_mem_cons.mp storable
      obtain ⟨year, years⟩ := List.forall_mem_cons.mp plain
      rw [List.map_cons, List.mapM_cons, row_ofRow first year, ih others years]
      rfl

/-- One row that cannot be read fails all that are asked for with it. -/
theorem mapM_row_error {rows : List Row} (storable : ∀ row ∈ rows, row.Storable)
    (other : ∃ row ∈ rows, ¬row.timestamp.HasPlainYear) :
    ∃ fault, (rows.map ofRow).mapM Record.row = .error fault := by
  induction rows with
  | nil =>
      obtain ⟨row, member, -⟩ := other
      cases member
  | cons row rows ih =>
      obtain ⟨first, others⟩ := List.forall_mem_cons.mp storable
      rw [List.map_cons, List.mapM_cons]
      by_cases year : row.timestamp.HasPlainYear
      · have later : ∃ row ∈ rows, ¬row.timestamp.HasPlainYear := by
          obtain ⟨found, member, wrong⟩ := other
          rcases List.mem_cons.mp member with rfl | member
          · exact absurd year wrong
          · exact ⟨found, member, wrong⟩
        obtain ⟨fault, failed⟩ := ih others later
        rw [row_ofRow first year, failed]
        exact ⟨fault, rfl⟩
      · obtain ⟨fault, failed⟩ := row_ofRow_error first year
        rw [failed]
        exact ⟨fault, rfl⟩

end Record

end Dossier
