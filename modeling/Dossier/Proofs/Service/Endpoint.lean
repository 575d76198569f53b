import Dossier.Processor.Endpoint
import Dossier.Proofs.Row.Sound
import Dossier.Proofs.Service.Execution

/-! # Executions with endpoints

An endpoint answers with sound rows for the document that it was asked about. So the rows that executions
save are terminal and stand for the pair that was asked for, and an execution that is not to be tried again
has saved just one.
-/

namespace Dossier

namespace Endpoint

variable {e : Endpoint} {documentId : Uuid} {row : Row}

theorem readAnswer_ok {response : Http.Response} (h : readAnswer documentId response = .ok row) :
    row.documentId = documentId ∧ row.Sound := by
  unfold readAnswer at h
  split at h
  · cases h
  · split at h
    · rename_i answered found
      split at h
      · rename_i same
        cases h
        obtain ⟨bytes, -, read⟩ := Option.map_eq_some_iff.mp found
        exact ⟨same, Row.readBytes_sound read⟩
      · cases h
    · cases h

theorem answer_ok {exchange : Http.Exchange} (h : e.answer documentId exchange = .ok row) :
    row.documentId = documentId ∧ row.Sound := by
  cases exchange with
  | unreachable => cases h
  | answered response => exact readAnswer_ok h

end Endpoint

namespace Service

variable {π : Type} {c : Collaborators π} {documentId : Uuid} {processorId : String} {s : Service}

/-- The rows that end the work on a request: the result of a processor, or a record that there is none. -/
inductive Ends (documentId : Uuid) (processorId : String) (now : Timestamp) : Row → Prop where
  | result {answer : Row} (complete : answer.status = .complete)
      (answered : answer.documentId = documentId) (sound : answer.Sound) :
      Ends documentId processorId now { answer with processorId }
  | refusal (error : String) :
      Ends documentId processorId now (.unprocessable documentId processorId error now)

namespace Ends

variable {now : Timestamp} {row : Row}

theorem isTerminal (ends : Ends documentId processorId now row) : row.status.isTerminal = true := by
  cases ends with
  | result complete => simp only [complete, Status.isTerminal]
  | refusal => rfl

theorem pair (ends : Ends documentId processorId now row) :
    row.documentId = documentId ∧ row.processorId = processorId := by
  cases ends with
  | result complete answered => exact ⟨answered, rfl⟩
  | refusal => exact ⟨rfl, rfl⟩

theorem sound (ends : Ends documentId processorId now row) : row.Sound := by
  cases ends with
  | result complete answered sound =>
      exact ⟨sound.status, sound.depth, sound.order⟩
  | refusal => exact Row.sound_unprocessable ..

end Ends

/-- Whether an outcome is not to be tried again. -/
def IsFinal (outcome : Except ProcessingFailure Row) : Prop :=
  (∃ row, outcome = .ok row) ∨ ∃ message, outcome = .error (.unretryable message)

/-- Whether what a processor says, if it says anything, is a sound row for a document or that it has none. -/
def IsApt (documentId : Uuid) (said : Option (Except ProcessorFailure Row)) : Prop :=
  ∀ row, said = some (.ok row) → row.documentId = documentId ∧ row.Sound

theorem isApt_none : IsApt documentId none := by
  intro row h
  cases h

theorem isApt_answer (e : Endpoint) (exchange : Http.Exchange) :
    IsApt documentId (some (e.answer documentId exchange)) := by
  intro row h
  exact Endpoint.answer_ok (Option.some.inj h)

namespace Course

variable {said : Option (Except ProcessorFailure Row)} {outcome : Except ProcessingFailure Row}
  {effect : Effect}

theorem complete_of_said {answer : Row} (h : Finding.of said = .complete answer) :
    said = some (.ok answer) ∧ answer.status = .complete := by
  unfold Finding.of at h
  split at h
  · cases h
  · cases h
  · rename_i answered
    split at h
    · rename_i complete
      cases h
      exact ⟨rfl, complete⟩
    · cases h
    · cases h
    · cases h
    · cases h

/-- All rows that are saved end the work on the request, and one that the service dates is dated by a new
reading of its clock. -/
theorem ends (course : Course c documentId processorId s (.of said) outcome effect)
    (apt : IsApt documentId said) :
    ∀ row ∈ effect.rows, Ends documentId processorId (c.clock s.readings) row ∧
      (row.status = .complete ∨ effect.readings = 1) := by
  have result {answer : Row} (found : Finding.of said = .complete answer) :
      answer.status = .complete ∧
        Ends documentId processorId (c.clock s.readings) { answer with processorId } := by
    obtain ⟨answered, complete⟩ := complete_of_said found
    obtain ⟨same, sound⟩ := apt answer answered
    exact ⟨complete, .result complete same sound⟩
  generalize found : Finding.of said = finding at course result
  cases course with
  | announced stamped taken opened | unannounced stamped taken closed =>
      obtain ⟨complete, ends⟩ := result rfl
      intro row member
      rw [List.mem_singleton.mp member, stamped]
      exact ⟨ends, .inl complete⟩
  | recorded dated taken =>
      intro row member
      rw [List.mem_singleton.mp member, dated]
      exact ⟨.refusal _, .inr rfl⟩
  | unsaved stamped refused | unrecorded dated refused | postponed => simp

/-- An execution that is not to be tried again has saved one row, which it returns if it succeeds. -/
theorem rows_of_isFinal {finding : Finding}
    (course : Course c documentId processorId s finding outcome effect) (final : IsFinal outcome) :
    ∃ row, effect.rows = [row] ∧ (outcome = .ok row ∨ row.status = .unprocessable) := by
  cases course with
  | announced => exact ⟨_, rfl, .inl rfl⟩
  | recorded dated => exact ⟨_, rfl, .inr (dated ▸ rfl)⟩
  | unannounced | unsaved | unrecorded | postponed => simp [IsFinal] at final

/-- An execution that is to be tried again has saved nothing, if results can be announced. -/
theorem rows_of_not_isFinal {finding : Finding}
    (course : Course c documentId processorId s finding outcome effect) (again : ¬IsFinal outcome)
    (opened : (s.topics.get .completions).isOpen = true) : effect.rows = [] := by
  cases course with
  | announced | recorded => simp [IsFinal] at again
  | unannounced stamped taken closed =>
      rw [opened] at closed
      cases closed
  | unsaved | unrecorded | postponed => rfl

end Course

end Service

end Dossier
