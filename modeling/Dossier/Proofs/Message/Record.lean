import Dossier.Proofs.Json.Tagged
import Dossier.Proofs.Message.Command
import Dossier.Proofs.Row.NormalForm

/-! # Lines that record rows

A row that came with a line is regular, for there was room for it in the line. A row that is listed becomes a line that
records it once a command is put among its members, wherever that stands. Main statements:
`Command.regular_of_record` and `Command.read_recording`.
-/

namespace Dossier

open Json

variable {stage : Stage} {node : Node} {row : Row}

namespace Payload

variable {p : Payload}

theorem regular_empty : Payload.empty.Regular :=
  ⟨(by decide : 1 < 127), List.Pairwise.nil, trivial⟩

theorem regular_withError (error : String) : (withError error).Regular :=
  ⟨(by decide : 1 < 127), List.pairwise_singleton _ _, trivial, trivial⟩

/-- A payload that is decoded from a buffer was read before. -/
theorem regular_of_read {room : Nat} (h : Payload.decode .buffered node = .ok p)
    (readable : node.Readable room) (fits : room < depthLimit) : p.Regular := by
  obtain ⟨members, decoded, rfl⟩ := map_eq_ok.mp h
  obtain ⟨json, read⟩ := readable
  obtain rfl := decodeMembers_of_read decoded read fits.le
  obtain ⟨order, depth⟩ := Node.read_ok read
  exact ⟨Nat.lt_of_le_of_lt depth fits, order⟩

theorem decode_buffered (regular : p.Regular) (spells : node.Spells p.toJson) :
    Payload.decode .buffered node = .ok p := by
  cases spells with
  | object fields =>
      have fits : depthOfMembers p.entries ≤ depthLimit :=
        Nat.le_of_lt (Nat.lt_of_succ_lt regular.depth)
      have read := fields.read regular.order.2 fits [] regular.order.1
      simp only [decode, decodeMembers, Stage.enter, bind, Except.bind, Stage.room, read]
      rfl

end Payload

namespace Row

theorem regular_pending (documentId : Uuid) (processorId : String) (now : Timestamp) :
    (pending documentId processorId now).Regular :=
  ⟨(sound_pending documentId processorId now).legible, Payload.regular_empty⟩

theorem regular_unprocessable (documentId : Uuid) (processorId error : String) (now : Timestamp) :
    (unprocessable documentId processorId error now).Regular :=
  ⟨(sound_unprocessable documentId processorId error now).legible, Payload.regular_withError error⟩

/-- The members of a row as a line lists them. -/
theorem members_ofList (row : Row) : Members.ofList row.members =
    [("documentId", .string row.documentId.text), ("processorId", .string row.processorId),
      ("result", row.result.toJson), ("status", .string row.status.text),
      ("timestamp", .string row.timestamp.text)] := by
  simp only [Members.ofList, members, List.foldl_cons, List.foldl_nil, Members.insert, String.reduceLT,
    String.reduceEq, if_true, if_false]

theorem fill_buffered (regular : row.Regular) {fields : Fields}
    (spells : fields.Spells (Members.ofList row.members)) :
    ∃ stop, shape.fillFields .buffered fields {} =
      .ok (⟨some row.documentId, some row.processorId, some row.status, some row.result,
        some row.timestamp⟩, stop) := by
  obtain ⟨name, known⟩ := regular.status
  rw [members_ofList] at spells
  cases spells with
  | cons document rest =>
  cases rest with
  | @cons _ _ _ _ second _ _ _ processor rest =>
  cases rest with
  | cons result rest =>
  cases rest with
  | cons status rest =>
  cases rest with
  | cons time rest =>
  cases rest with
  | @nil stop =>
      have document := Uuid.decode_spells .buffered document
      have processor : decodeString .buffered second = .ok row.processorId := decodeText_ok rfl _ processor
      have result := Payload.decode_buffered regular.payload result
      have status := Status.decode_spells known .buffered status
      have time := Timestamp.decode_spells .buffered time
      refine ⟨stop, ?_⟩
      rw [Shape.fillFields_field rfl rfl (congrArg (Except.map _) document),
        Shape.fillFields_field rfl rfl (congrArg (Except.map _) processor),
        Shape.fillFields_field rfl rfl (congrArg (Except.map _) result),
        Shape.fillFields_field rfl rfl (congrArg (Except.map _) status),
        Shape.fillFields_field rfl rfl (congrArg (Except.map _) time)]
      rfl

theorem decode_buffered (regular : row.Regular) {fields : Fields} (start : Position)
    (spells : fields.Spells (Members.ofList row.members)) :
    Row.decode .buffered (.object start fields) = .ok row := by
  obtain ⟨stop, filled⟩ := fill_buffered regular spells
  exact Shape.decode_object rfl filled rfl

end Row

namespace Command

/-- The row of a command is regular. -/
theorem regular_of_record {text : String} (h : Command.read text = .ok (.record row)) : row.Regular := by
  refine ⟨read_record h, ?_⟩
  obtain ⟨decoded, -⟩ := Document.decode_ok.mp h
  obtain ⟨body, tagged, read⟩ := decode_record_iff.mp decoded
  refine (Row.decode_sound_within Payload.regular_empty (decodeTagged_readable tagged)
    (fun start inner enter node readable p h => ?_) read).2
  cases enter
  exact Payload.regular_of_read h readable (by decide)

/-- A listed row with a command among its members, wherever it stands, is a line that records the row. -/
theorem read_recording (normal : row.Normal) {before after : List (String × Json)}
    (listed : Members.ofList row.members = before ++ after) :
    Command.read (object (before ++ ("command", .string "record") :: after)).text = .ok (.record row) := by
  have ordered : EveryMember KeepsOrder (before ++ after) := by
    rw [← listed, Row.members_ofList]
    exact ⟨trivial, trivial, normal.order, trivial, trivial, trivial⟩
  have numbers : EveryMember KeepsNumber (before ++ after) := by
    rw [← listed, Row.members_ofList]
    exact ⟨trivial, trivial, normal.numbers, trivial, trivial, trivial⟩
  have fits : depthOfMembers (before ++ after) ≤ 126 := by
    rw [← listed, Row.members_ofList, depthOfMembers_le]
    simpa [Json.depth] using Nat.le_of_lt_succ normal.depth
  have others : ∀ member ∈ before ++ after, member.1 ≠ "command" := by
    rw [← listed, Row.members_ofList]
    simp
  have keeps : (object (before ++ ("command", .string "record") :: after)).Every KeepsNumber := by
    refine ⟨trivial, everyMember_iff.mpr fun member among => ?_⟩
    rcases List.mem_append.mp among with old | among
    · exact everyMember_iff.mp numbers member (List.mem_append_left _ old)
    · rcases List.mem_cons.mp among with rfl | old
      · trivial
      · exact everyMember_iff.mp numbers member (List.mem_append_right _ old)
  have known (node : Node) (spells : node.Spells (.string "record")) :
      decodeName "variant identifier" tags (.text 126) node = .ok .record :=
    decodeText_ok (by rfl) _ spells
  refine decode_text keeps fun node spells => ?_
  obtain ⟨start, left, tagged, spells⟩ := decodeTagged_spells "internally tagged enum IngressCommand" spells
    ordered fits others known
  rw [← listed] at spells
  have decoded := Row.decode_buffered ⟨normal.toLegible, normal.depth, normal.order⟩ start spells
  rw [decode, Stage.whole, show depthLimit = 126 + 1 from rfl, tagged]
  simp only [bind, Except.bind, decodeBody, decoded]
  rfl

end Command

end Dossier
