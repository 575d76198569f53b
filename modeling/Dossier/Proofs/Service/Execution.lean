import Dossier.Proofs.Service.Step
import Dossier.Service.Execution

/-! # The course of an execution

What a processor says decides what an execution is after: to save and announce a result, to record that
there is none, or to leave it to another try. Store and topic decide how far it comes.
-/

namespace Dossier.Service

variable {π : Type}

/-- The registry decides who is asked. -/
theorem execute_eq (c : Collaborators π) (answer : π → Uuid → Except ProcessorFailure Row) (documentId : Uuid)
    (processorId : String) :
    execute c answer documentId processorId = match c.registry.find? processorId with
      | none => refuse c documentId processorId
      | some processor => settle c documentId processorId processor (answer processor.duty documentId) := by
  unfold execute Procedure.execute
  cases c.registry.find? processorId with
  | none => rfl
  | some processor => rfl

/-- What follows from what a processor says. -/
inductive Finding where
  /-- There is a result. -/
  | complete (answer : Row)
  /-- There will never be a result. -/
  | hopeless (error : String)
  /-- There is no result for now. -/
  | undecided

/-- The finding from an answer; `none` if no processor goes by the id. -/
def Finding.of : Option (Except ProcessorFailure Row) → Finding
  | none => .hopeless "processor not found"
  | some (.error _) => .undecided
  | some (.ok answer) => match answer.status with
    | .complete => .complete answer
    | .unprocessable => .hopeless "Unprocessable document"
    | .pending | .missingDependency | .other _ => .undecided

/-- The ways that an execution can take from a finding to its outcome, with its effect. -/
inductive Course (c : Collaborators π) (documentId : Uuid) (processorId : String) (s : Service) :
    Finding → Except ProcessingFailure Row → Effect → Prop where
  | announced {answer row : Row} (stamped : row = { answer with processorId })
      (taken : s.Takes c row) (opened : (s.topics.get .completions).isOpen = true) :
      Course c documentId processorId s (.complete answer) (.ok row)
        { rows := [row], completions := [.first row.text] }
  | unannounced {answer row : Row} {message : String} {source : Option Failure}
      (stamped : row = { answer with processorId }) (taken : s.Takes c row)
      (closed : (s.topics.get .completions).isOpen = false) :
      Course c documentId processorId s (.complete answer) (.error (.retryable message source))
        { rows := [row] }
  | unsaved {answer row : Row} {message : String} {source : Option Failure}
      (stamped : row = { answer with processorId }) (refused : ¬s.Takes c row) :
      Course c documentId processorId s (.complete answer) (.error (.retryable message source)) {}
  | recorded {error message : String} {row : Row}
      (dated : row = .unprocessable documentId processorId error (c.clock s.readings))
      (taken : s.Takes c row) :
      Course c documentId processorId s (.hopeless error) (.error (.unretryable message))
        { rows := [row], readings := 1 }
  | unrecorded {error message : String} {row : Row} {source : Option Failure}
      (dated : row = .unprocessable documentId processorId error (c.clock s.readings))
      (refused : ¬s.Takes c row) :
      Course c documentId processorId s (.hopeless error) (.error (.retryable message source))
        { readings := 1 }
  | postponed {message : String} {source : Option Failure} :
      Course c documentId processorId s .undecided (.error (.retryable message source)) {}

/-- Whether an attempt takes one of the courses that a finding leaves open. -/
def Pursues (c : Collaborators π) (documentId : Uuid) (processorId : String) (s : Service)
    (finding : Finding) (attempt : Attempt ProcessingFailure Row) : Prop :=
  ∃ outcome effect t, attempt s = (outcome, t) ∧
    Course c documentId processorId s finding outcome effect ∧ effect.Leads s t

variable (c : Collaborators π) (documentId : Uuid) (processorId : String) (s : Service)

theorem recordUnprocessable_cases (error : String) :
    let row := Row.unprocessable documentId processorId error (c.clock s.readings)
    (s.Takes c row ∧ ∃ t, recordUnprocessable c documentId processorId error s = (.ok (), t) ∧
      Effect.Leads { rows := [row], readings := 1 } s t) ∨
    (¬s.Takes c row ∧ ∃ message source t,
      recordUnprocessable c documentId processorId error s =
        (.error (.retryable message source), t) ∧ Effect.Leads { readings := 1 } s t) := by
  intro row
  have read := leads_readings (s := s)
  rcases save_cases c row { s with readings := s.readings + 1 } with
    ⟨taken, t, saved, leads, -⟩ | ⟨refused, failure, t, failed, leads⟩
  · exact .inl ⟨taken, t, (readClock_bind ..).trans (explain_ok saved), read.trans leads⟩
  · exact .inr ⟨refused, "Failed to record unprocessable result", some (.service failure), t,
      (readClock_bind ..).trans (explain_error failed), read.trans leads⟩

/-- To record that there is no result, after something was told, is the course of a hopeless finding. -/
theorem pursues_hopeless (level : LogLevel) (told : String) (fields : List (String × String))
    (error message : String) :
    Pursues c documentId processorId s (.hopeless error) (do
      tell level told fields
      recordUnprocessable c documentId processorId error
      throw (.unretryable message)) := by
  let s' : Service := { s with log := s.log ++ [⟨level, told, fields⟩] }
  have telling : Effect.nothing.Leads s s' := leads_log _
  rcases recordUnprocessable_cases c documentId processorId s' error with
    ⟨taken, t, recorded, leads⟩ | ⟨refused, reason, source, t, failed, leads⟩
  · exact ⟨.error (.unretryable message), _, t, (tell_bind ..).trans (bind_ok recorded),
      .recorded rfl taken, telling.trans leads⟩
  · exact ⟨_, _, t, (tell_bind ..).trans (bind_error failed), .unrecorded rfl refused,
      telling.trans leads⟩

theorem pursues_complete (processor : Processor π) (goes : processor.id = processorId) (answer : Row) :
    Pursues c documentId processorId s (.complete answer)
      (complete c documentId processor answer) := by
  subst goes
  let row : Row := { answer with processorId := processor.id }
  rcases save_cases c row s with ⟨taken, t, saved, leads, topics⟩ | ⟨refused, failure, t, failed, leads⟩
  · rcases publish_cases .completions row.text t with ⟨opened, u, sent, sending⟩ | ⟨closed, failed⟩
    · exact ⟨.ok row, _, _, (bind_ok (explain_ok saved)).trans (bind_ok (explain_ok sent)),
        .announced rfl taken (topics ▸ opened), (leads.trans sending).trans (leads_log _)⟩
    · exact ⟨_, _, t, (bind_ok (explain_ok saved)).trans (bind_error (explain_error failed)),
        .unannounced rfl taken (topics ▸ closed), leads⟩
  · exact ⟨_, _, t, bind_error (explain_error failed), .unsaved rfl refused, leads⟩

/-- A processor that stands under its own id is dealt with as its answer says. -/
theorem pursues_settle (processor : Processor π) (goes : processor.id = processorId)
    (answer : Except ProcessorFailure Row) :
    Pursues c documentId processorId s (.of (some answer))
      (settle c documentId processorId processor answer) := by
  cases answer with
  | error failure => exact ⟨_, _, _, rfl, .postponed, leads_log _⟩
  | ok row =>
      simp only [Finding.of, settle, Procedure.settle]
      cases row.status with
      | complete => exact pursues_complete c documentId processorId s processor goes row
      | unprocessable => exact pursues_hopeless c documentId processorId s _ _ _ _ _
      | missingDependency => exact ⟨_, _, _, rfl, .postponed, leads_log _⟩
      | pending | other => exact ⟨_, _, _, rfl, .postponed, .refl s⟩

theorem pursues_refuse :
    Pursues c documentId processorId s (.of none) (refuse c documentId processorId) :=
  pursues_hopeless c documentId processorId s _ _ _ _ _

end Dossier.Service
