import Dossier.Message.Request
import Dossier.Proofs.Uuid

/-! # Reading requests back

The text of a request is read as the request, whatever its processor is called.
-/

namespace Dossier

open Json

theorem Uuid.decode_spells {id : Uuid} (stage : Stage) {node : Node}
    (spells : node.Spells (.string id.text)) : Uuid.decode stage node = .ok id :=
  decodeText_ok (by rw [read_text]; rfl) stage spells

theorem ProcessorRef.fill_spells {p : ProcessorRef} (stage : Stage) {fields : Fields}
    (spells : fields.Spells [("processorId", .string p.id)]) :
    ∃ stop, shape.fillFields stage fields none = .ok (some p.id, stop) := by
  cases spells with
  | @cons _ _ _ _ node _ _ _ id rest =>
      have read : decodeString stage node = .ok p.id := decodeText_ok rfl stage id
      cases rest with
      | @nil stop =>
          refine ⟨stop, ?_⟩
          rw [Shape.fillFields_field rfl rfl (congrArg (Except.map some) read)]
          rfl

theorem ProcessorRef.decode_spells {p : ProcessorRef} (room : Nat) {node : Node}
    (spells : node.Spells p.toJson) : ProcessorRef.decode (.text (room + 1)) node = .ok p := by
  cases spells with
  | object fields =>
      obtain ⟨stop, filled⟩ := fill_spells (.text room) fields
      exact Shape.decode_object rfl filled rfl

namespace Request

theorem fill_spells {r : Request} (room : Nat) {fields : Fields}
    (spells : fields.Spells
      [("request", r.processor.toJson), ("documentId", .string r.documentId.text)]) :
    ∃ stop, shape.fillFields (.text (room + 1)) fields {} =
      .ok (⟨some r.processor, some r.documentId⟩, stop) := by
  cases spells with
  | @cons _ _ _ _ first _ _ _ processor rest =>
      have read := ProcessorRef.decode_spells room processor
      cases rest with
      | @cons _ _ _ _ second _ _ _ document rest =>
          have identified := Uuid.decode_spells (.text (room + 1)) document
          cases rest with
          | @nil stop =>
              refine ⟨stop, ?_⟩
              rw [Shape.fillFields_field rfl rfl (congrArg (Except.map _) read),
                Shape.fillFields_field rfl rfl (congrArg (Except.map _) identified)]
              rfl

/-- The text of a request is read as that request. -/
theorem read_text (r : Request) : read r.text = .ok r := by
  have keeps : (Json.object [("request", r.processor.toJson),
      ("documentId", .string r.documentId.text)]).Every KeepsNumber := by
    simp [ProcessorRef.toJson, Every, EveryMember, KeepsNumber]
  apply decode_text keeps
  intro node spells
  cases spells with
  | object fields =>
      obtain ⟨stop, filled⟩ := fill_spells 125 fields
      exact Shape.decode_object rfl filled rfl

end Request

end Dossier
