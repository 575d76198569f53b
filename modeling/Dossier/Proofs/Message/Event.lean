import Dossier.Message.Event
import Dossier.Proofs.Message.Request

/-! # Reading events back

The text of an event is read as the event, whatever its kind is, however its processors are called and however
many they are. Main statement: `Event.read_text`.
-/

namespace Dossier

open Json

namespace Json

variable {α : Type} {item : Decoder α} {toJson : α → Json} {stage : Stage}

/-- Items are decoded one by one if every tree that spells one is. -/
theorem decodeItems_spells (decodes : ∀ a node, node.Spells (toJson a) → item stage node = .ok a)
    {values : List α} {items : Items} (spells : items.Spells (values.map toJson)) :
    decodeItems item stage items = .ok values := by
  induction values generalizing items with
  | nil =>
      cases spells
      rfl
  | cons a values ih =>
      cases spells with
      | cons first rest =>
          rw [decodeItems, decodes a _ first, ih rest]
          rfl

theorem decodeList_spells {room : Nat}
    (decodes : ∀ a node, node.Spells (toJson a) → item (.text room) node = .ok a)
    {values : List α} {node : Node} (spells : node.Spells (.array (values.map toJson))) :
    decodeList item (.text (room + 1)) node = .ok values := by
  cases spells with
  | array items => exact decodeItems_spells decodes items

theorem every_map {p : Json → Prop} (values : List α) (every : ∀ a, (toJson a).Every p) :
    EveryItem p (values.map toJson) := by
  induction values with
  | nil => trivial
  | cons a values ih => exact ⟨every a, ih⟩

end Json

theorem ProcessorRef.keeps_toJson (p : ProcessorRef) : p.toJson.Every KeepsNumber :=
  ⟨trivial, trivial, trivial⟩

namespace Event

theorem fill_metadata {e : Event} (stage : Stage) {fields : Fields}
    (spells : fields.Spells [("id", .string e.id.text), ("type", .string e.kind)]) :
    ∃ stop, metadataShape.fillFields stage fields {} = .ok (⟨some e.id, some e.kind⟩, stop) := by
  cases spells with
  | @cons _ _ _ _ first _ _ _ id rest =>
      have identified := Uuid.decode_spells stage id
      cases rest with
      | @cons _ _ _ _ second _ _ _ kind rest =>
          have read : decodeString stage second = .ok e.kind := decodeText_ok rfl stage kind
          cases rest with
          | @nil stop =>
              refine ⟨stop, ?_⟩
              rw [Shape.fillFields_field rfl rfl (congrArg (Except.map _) identified),
                Shape.fillFields_field rfl rfl (congrArg (Except.map _) read)]
              rfl

theorem decode_metadata {e : Event} (room : Nat) {node : Node}
    (spells : node.Spells (.object [("id", .string e.id.text), ("type", .string e.kind)])) :
    metadataShape.decode (.text (room + 1)) node = .ok (e.id, e.kind) := by
  cases spells with
  | object fields =>
      obtain ⟨stop, filled⟩ := fill_metadata (.text room) fields
      exact Shape.decode_object rfl filled rfl

theorem fill_spells {e : Event} (room : Nat) {fields : Fields}
    (spells : fields.Spells [
      ("metadata", .object [("id", .string e.id.text), ("type", .string e.kind)]),
      ("documentId", .string e.documentId.text),
      ("processorIds", .array (e.processors.map ProcessorRef.toJson))]) :
    ∃ stop, shape.fillFields (.text (room + 2)) fields {} =
      .ok (⟨some (e.id, e.kind), some e.documentId, some e.processors⟩, stop) := by
  cases spells with
  | @cons _ _ _ _ first _ _ _ metadata rest =>
      have headed := decode_metadata (room + 1) metadata
      cases rest with
      | @cons _ _ _ _ second _ _ _ document rest =>
          have identified := Uuid.decode_spells (.text (room + 2)) document
          cases rest with
          | @cons _ _ _ _ third _ _ _ processors rest =>
              have listed : decodeList ProcessorRef.decode (.text (room + 2)) third =
                  .ok e.processors :=
                decodeList_spells (fun _ _ => ProcessorRef.decode_spells room) processors
              cases rest with
              | @nil stop =>
                  refine ⟨stop, ?_⟩
                  rw [Shape.fillFields_field rfl rfl (congrArg (Except.map _) headed),
                    Shape.fillFields_field rfl rfl (congrArg (Except.map _) identified),
                    Shape.fillFields_field rfl rfl (congrArg (Except.map _) listed)]
                  rfl

/-- The text of an event is read as that event. -/
theorem read_text (e : Event) : read e.text = .ok e := by
  apply decode_text
  · have processors := every_map e.processors ProcessorRef.keeps_toJson
    exact ⟨trivial, ⟨trivial, trivial, trivial, trivial⟩, trivial, ⟨trivial, processors⟩, trivial⟩
  · intro node spells
    cases spells with
    | object fields =>
        obtain ⟨stop, filled⟩ := fill_spells 124 fields
        exact Shape.decode_object rfl filled rfl

end Event

end Dossier
