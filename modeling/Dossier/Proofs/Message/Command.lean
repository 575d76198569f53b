import Dossier.Message.Command
import Dossier.Proofs.Row.Sound

/-! # Rows that come with commands

A row that is to be recorded is decoded after its whole command was read, and is legible nevertheless. Main
statements: `Command.decode_record_iff` and `Command.read_record`.
-/

namespace Dossier.Command

open Json

variable {stage : Stage} {node : Node} {text : String} {row : Row}

theorem decode_results_ne_record : resultsShape.decode stage node ≠ .ok (.record row) := by
  intro decoded
  obtain ⟨draft, -, finish⟩ := Shape.decode_within decoded (node.within_of_forall fun _ => trivial)
    (fun _ _ _ _ _ _ _ _ _ _ _ => trivial) (trivial : (fun _ => True) resultsShape.blank)
  simp only [resultsShape, bind_eq_ok] at finish
  obtain ⟨documentId, -, other⟩ := finish
  cases other

/-- A row is recorded just if it is what is left beside the tag. -/
theorem decode_record_iff :
    decode stage node = .ok (.record row) ↔ ∃ body,
      decodeTagged "internally tagged enum IngressCommand" "command" (decodeName "variant identifier" tags)
        stage node = .ok (.record, body) ∧ Row.decode .buffered body = .ok row := by
  simp only [decode, bind_eq_ok]
  constructor
  · rintro ⟨⟨kind, body⟩, tagged, decoded⟩
    cases kind with
    | initiate =>
        obtain ⟨event, -, other⟩ := map_eq_ok.mp decoded
        cases other
    | results => exact absurd decoded decode_results_ne_record
    | record =>
        obtain ⟨found, decoded, same⟩ := map_eq_ok.mp decoded
        cases same
        exact ⟨body, tagged, decoded⟩
  · rintro ⟨body, tagged, decoded⟩
    exact ⟨(.record, body), tagged, map_eq_ok.mpr ⟨row, decoded, rfl⟩⟩

/-- The row of a command is legible. -/
theorem read_record (h : Command.read text = .ok (.record row)) : row.Legible := by
  obtain ⟨decoded, -⟩ := Document.decode_ok.mp h
  obtain ⟨body, -, read⟩ := decode_record_iff.mp decoded
  exact Row.decode_legible read

end Dossier.Command
