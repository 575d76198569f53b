import Dossier.Proofs.Json.Bytes
import Dossier.Row.Basic

/-! # Sound rows

What can be relied on in every row that was read from a text, however it came there, and in every row that
the service makes itself. Main statement: `Row.read_sound`.
-/

namespace Dossier

open Json

/-- Whether the parts of a row are such as their readers give. -/
structure Row.Sound (row : Row) : Prop where
  /-- The status is one that some text stands for. -/
  status : ∃ text, row.status = .ofText text
  depth : row.result.toJson.depth ≤ depthLimit
  /-- Each object in the payload has its members in order, each key once. -/
  order : row.result.toJson.Every KeepsOrder

/-- Whether the status of a row is such as its reader gives. It is so in every row that was decoded, from a buffer
too, where its payload may nest deeper than a text of its own could. -/
structure Row.Legible (row : Row) : Prop where
  status : ∃ text, row.status = .ofText text

theorem Row.Sound.legible {row : Row} (sound : row.Sound) : row.Legible :=
  ⟨sound.status⟩

/-- Whether the parts of a row that are known are such as their readers give, and its payload is fit. -/
structure Row.Draft.Sound (fits : Payload → Prop) (draft : Row.Draft) : Prop where
  status : ∀ status, draft.status = some status → ∃ text, status = .ofText text
  result : ∀ result, draft.result = some result → fits result

namespace Row

variable {stage : Stage} {node : Node} {row : Row} {fits : Payload → Prop} {q : Node → Prop}

theorem slots_keep_sound
    (payloads : ∀ node, q node → ∀ result, Payload.decode stage node = .ok result → fits result) :
    ∀ slot ∈ shape.slots, Shape.Keeps stage q (Draft.Sound fits) slot := by
  simp only [shape, List.forall_mem_cons, List.not_mem_nil, false_implies, implies_true, and_true]
  refine ⟨?_, ?_, ?_, ?_, ?_⟩
  · exact Shape.keeps_of fun node _ draft id _ sound => ⟨sound.status, sound.result⟩
  · exact Shape.keeps_of fun node _ draft id _ sound => ⟨sound.status, sound.result⟩
  · refine Shape.keeps_of fun node _ draft status read sound => ⟨?_, sound.result⟩
    obtain ⟨text, same⟩ := decodeText_reads read
    cases same
    intro status known
    cases known
    exact ⟨text, rfl⟩
  · refine Shape.keeps_of fun node part draft result read sound => ⟨sound.status, ?_⟩
    intro result known
    cases known
    exact payloads node part result read
  · exact Shape.keeps_of fun node _ draft time _ sound => ⟨sound.status, sound.result⟩

/-- A row that is decoded is legible, and its payload is fit if all are that can be decoded from the parts of the
tree. -/
theorem decode_sound_within (empty : fits .empty) (parts : node.Within q)
    (payloads : ∀ start inner, stage.enter start = .ok inner →
      ∀ node, q node → ∀ result, Payload.decode inner node = .ok result → fits result)
    (h : Row.decode stage node = .ok row) : row.Legible ∧ fits row.result := by
  have blank : Draft.Sound fits {} := ⟨by simp, by simp⟩
  obtain ⟨draft, sound, finish⟩ := Shape.decode_within h parts
    (fun start inner enter => slots_keep_sound (payloads start inner enter)) blank
  simp only [shape, bind_eq_ok] at finish
  obtain ⟨documentId, -, processorId, -, status, known, timestamp, -, same⟩ := finish
  cases same
  refine ⟨⟨sound.status _ (require_ok known)⟩, ?_⟩
  cases found : draft.result with
  | none => exact empty
  | some result => exact sound.result result found

theorem decode_sound (empty : fits .empty)
    (payloads : ∀ start inner, stage.enter start = .ok inner →
      ∀ node result, Payload.decode inner node = .ok result → fits result)
    (h : Row.decode stage node = .ok row) : row.Legible ∧ fits row.result :=
  decode_sound_within empty (node.within_of_forall fun _ => trivial)
    (fun start inner enter node _ => payloads start inner enter node) h

theorem decode_legible (h : Row.decode stage node = .ok row) : row.Legible := by
  let any : Payload → Prop := fun _ => True
  have empty : any .empty := trivial
  exact (decode_sound empty (fun _ _ _ _ _ _ => trivial) h).1

/-- The row that a text holds is sound. -/
theorem read_sound {text : String} (h : Row.read text = .ok row) : row.Sound := by
  obtain ⟨decoded, -⟩ := Document.decode_ok.mp h
  let fits : Payload → Prop := fun result =>
    result.toJson.depth ≤ depthLimit ∧ result.toJson.Every KeepsOrder
  have empty : fits .empty := ⟨(by decide : 1 ≤ 127), List.Pairwise.nil, trivial⟩
  obtain ⟨legible, depth, order⟩ := decode_sound empty (fun start inner enter node result read => by
    obtain ⟨less, rfl, room⟩ := enter_ok enter
    obtain ⟨members, decoded, rfl⟩ := map_eq_ok.mp read
    obtain ⟨ordered, within⟩ := decodeMembers_reads decoded
    exact ⟨Nat.le_trans within (by omega), ordered⟩) decoded
  exact ⟨legible.status, depth, order⟩

theorem mendable_decode : Mendable Row.decode := by
  refine Shape.mendable_decode ?_
  simp only [shape, List.forall_mem_cons, List.not_mem_nil, false_implies, implies_true, and_true]
  refine ⟨Shape.mendable_of mendable_text, Shape.mendable_of mendable_text, Shape.mendable_of mendable_text,
    Shape.mendable_of ?_, Shape.mendable_of mendable_text⟩
  intro spots stage node payload h
  obtain ⟨members, decoded, rfl⟩ := map_eq_ok.mp h
  exact map_eq_ok.mpr ⟨members, mendable_members decoded, rfl⟩

/-- The row that bytes hold is also that of the text with their bad spots replaced. -/
theorem read_of_readBytes {bytes : List UInt8} (h : readBytes bytes = .ok row) :
    read (Text.replaced bytes) = .ok row :=
  mendable_decode.decodeBytes h

theorem readBytes_sound {bytes : List UInt8} (h : readBytes bytes = .ok row) : row.Sound :=
  read_sound (read_of_readBytes h)

theorem readBytes_of_text {bytes : List UInt8} {text : String} (legible : Text.ofUtf8? bytes = some text) :
    readBytes bytes = read text :=
  decodeBytes_of_text legible decode

theorem sound_pending (documentId : Uuid) (processorId : String) (now : Timestamp) :
    (pending documentId processorId now).Sound where
  status := ⟨"PENDING", rfl⟩
  depth := (by decide : 1 ≤ 127)
  order := ⟨List.Pairwise.nil, trivial⟩

theorem sound_unprocessable (documentId : Uuid) (processorId error : String) (now : Timestamp) :
    (unprocessable documentId processorId error now).Sound where
  status := ⟨"UNPROCESSABLE", rfl⟩
  depth := (by decide : 1 ≤ 127)
  order := ⟨List.pairwise_singleton _ _, trivial, trivial⟩

end Row

end Dossier
