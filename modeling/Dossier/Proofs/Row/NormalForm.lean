import Dossier.Program.Basic
import Dossier.Proofs.Message.Request
import Dossier.Proofs.Service.Endpoint
import Dossier.Proofs.Store.Record
import Dossier.Proofs.Timestamp.Relaxed

/-! # The normal form of rows

Rows can be written in many ways, and all of them are read: members in any order, further members, an array, other
spellings of ids and timestamps. The text of the row that is read is one of the ways, and reading it gives the
row again. So a result that is announced is read as the row that was saved. Main statements: `Row.read_text` and
`Row.normal_form`.
-/

namespace Dossier

open Json

/-- Whether there is room for a payload within a row. -/
structure Payload.Regular (p : Payload) : Prop where
  depth : p.toJson.depth < depthLimit
  order : p.toJson.Every KeepsOrder

/-- Whether a row is such as can be read from a text of its own. -/
structure Row.Regular (row : Row) : Prop extends Row.Legible row where
  payload : row.result.Regular

/-- Whether the text of a row is read back: there is room in it for the payload, whose numbers are read back from
their own texts. -/
structure Row.Normal (row : Row) : Prop extends Row.Legible row where
  depth : row.result.toJson.depth < depthLimit
  order : row.result.toJson.Every KeepsOrder
  numbers : row.result.toJson.Every KeepsNumber

theorem Status.decode_spells {status : Status} {text : String} (known : status = .ofText text)
    (stage : Stage) {node : Node} (spells : node.Spells (.string status.text)) :
    Status.decode stage node = .ok status :=
  decodeText_ok (by rw [known, Status.text_ofText]) stage spells

theorem Timestamp.decode_spells {time : Timestamp} (stage : Stage)
    {node : Node} (spells : node.Spells (.string time.text)) :
    Timestamp.decode stage node = .ok time :=
  decodeText_ok (by rw [readRelaxed_text]; rfl) stage spells

theorem Payload.decode_spells {p : Payload} (order : p.toJson.Every KeepsOrder) {room : Nat}
    (fits : p.toJson.depth ≤ room) {node : Node} (spells : node.Spells p.toJson) :
    Payload.decode (.text room) node = .ok p := by
  rw [Payload.decode, decodeMembers_ok spells order fits]
  rfl

namespace Row

variable {row : Row} {text : String}

theorem fill_spells (legible : row.Legible) (order : row.result.toJson.Every KeepsOrder) {room : Nat}
    (fits : row.result.toJson.depth ≤ room) {fields : Fields} (spells : fields.Spells row.members) :
    ∃ stop, shape.fillFields (.text room) fields {} =
      .ok (⟨some row.documentId, some row.processorId, some row.status, some row.result,
        some row.timestamp⟩, stop) := by
  obtain ⟨name, known⟩ := legible.status
  cases spells with
  | cons document rest =>
  cases rest with
  | @cons _ _ _ _ second _ _ _ processor rest =>
  cases rest with
  | cons status rest =>
  cases rest with
  | cons result rest =>
  cases rest with
  | cons time rest =>
  cases rest with
  | @nil stop =>
      have document := Uuid.decode_spells (.text room) document
      have processor : decodeString (.text room) second = .ok row.processorId :=
        decodeText_ok rfl _ processor
      have status := Status.decode_spells known (.text room) status
      have result := Payload.decode_spells order fits result
      have time := Timestamp.decode_spells (.text room) time
      refine ⟨stop, ?_⟩
      rw [Shape.fillFields_field rfl rfl (congrArg (Except.map _) document),
        Shape.fillFields_field rfl rfl (congrArg (Except.map _) processor),
        Shape.fillFields_field rfl rfl (congrArg (Except.map _) status),
        Shape.fillFields_field rfl rfl (congrArg (Except.map _) result),
        Shape.fillFields_field rfl rfl (congrArg (Except.map _) time)]
      rfl

/-- The text of a row is read as that row. -/
theorem read_text (normal : row.Normal) : read row.text = .ok row := by
  apply decode_text
  · exact ⟨trivial, trivial, trivial, trivial, normal.numbers, trivial, trivial⟩
  · intro node spells
    cases spells with
    | object fields =>
        have fits : row.result.toJson.depth ≤ 126 := Nat.le_of_lt_succ normal.depth
        obtain ⟨stop, filled⟩ := fill_spells normal.toLegible normal.order fits fields
        exact Shape.decode_object rfl filled rfl

theorem Regular.normal (regular : row.Regular) (numbers : row.result.toJson.Every KeepsNumber) :
    row.Normal :=
  ⟨regular.toLegible, regular.payload.depth, regular.payload.order, numbers⟩

/-- In the text of a row there was room for its payload within the row. -/
theorem regular_of_read (h : Row.read text = .ok row) : row.Regular := by
  obtain ⟨decoded, -⟩ := Document.decode_ok.mp h
  have empty : Payload.empty.Regular := ⟨(by decide : 1 < 127), List.Pairwise.nil, trivial⟩
  obtain ⟨legible, payload⟩ := decode_sound empty (fun start inner enter node result read => by
    obtain ⟨less, rfl, room⟩ := enter_ok enter
    obtain ⟨members, decoded, rfl⟩ := map_eq_ok.mp read
    obtain ⟨ordered, within⟩ := decodeMembers_reads decoded
    exact ⟨by rw [room]; exact Nat.lt_succ_of_le within, ordered⟩) decoded
  exact ⟨legible, payload⟩

theorem normal_of_read (h : Row.read text = .ok row) (numbers : row.result.toJson.Every KeepsNumber) :
    row.Normal :=
  (regular_of_read h).normal numbers

end Row

end Dossier
