import Dossier.Proofs.Service.Execution

/-! # The outcomes of an execution

An execution ends in one of three ways, and each has its own effect: a result is saved and announced, the
document is recorded as unprocessable, or the request is left to another try. Main statement:
`execute_outcomes` says which of them it is and what exactly is added, whatever the processor says and
wherever store and topic fail.
-/

namespace Dossier.Service

variable {π : Type}

/-- The row of the result that a finding comes with. -/
def Finding.result? (processorId : String) : Finding → Option Row
  | .complete answer => some { answer with processorId }
  | .hopeless _ | .undecided => none

/-- The row that records that there is no result. -/
def Finding.refusal? (documentId : Uuid) (processorId : String) (now : Timestamp) :
    Finding → Option Row
  | .hopeless error => some (.unprocessable documentId processorId error now)
  | .complete _ | .undecided => none

/-- What the courses of an execution have in common, by its outcome. -/
theorem Pursues.outcomes {c : Collaborators π} {documentId : Uuid} {processorId : String}
    {s : Service} {finding : Finding} {attempt : Attempt ProcessingFailure Row}
    (pursues : Pursues c documentId processorId s finding attempt) :
    let run := attempt s
    let result? := finding.result? processorId
    let refusal? := finding.refusal? documentId processorId (c.clock s.readings)
    let opened := (s.topics.get .completions).isOpen = true
    (∀ row, run.1 = .ok row ↔ result? = some row ∧ s.Takes c row ∧ opened) ∧
    (∀ row, run.1 = .ok row →
      Effect.Leads { rows := [row], completions := [.first row.text] } s run.2) ∧
    ((∃ message, run.1 = .error (.unretryable message)) ↔
      ∃ row, refusal? = some row ∧ s.Takes c row) ∧
    (∀ message, run.1 = .error (.unretryable message) →
      ∃ row, refusal? = some row ∧ Effect.Leads { rows := [row], readings := 1 } s run.2) ∧
    (∀ message source, run.1 = .error (.retryable message source) →
      (∃ row, result? = some row ∧ s.Takes c row ∧ ¬opened ∧
        Effect.Leads { rows := [row] } s run.2) ∨
      ((∀ row, result? = some row ∨ refusal? = some row → ¬s.Takes c row) ∧
        ∃ readings, Effect.Leads { readings } s run.2)) := by
  obtain ⟨outcome, effect, t, ends, course, leads⟩ := pursues
  intro run result? refusal? opened
  simp only [run, ends, result?, refusal?, opened]
  cases course with
  | announced stamped | unannounced stamped | unsaved stamped | recorded stamped
  | unrecorded stamped =>
      subst stamped
      grind [Finding.result?, Finding.refusal?]
  | postponed => grind [Finding.result?, Finding.refusal?]

variable (c : Collaborators π) (processors : List (String × π))
  (answer : π → Uuid → Except ProcessorFailure Row) (documentId : Uuid) (processorId : String)
  (s : Service)

/-- What the processor says that was registered last under an id; `none` if none was. -/
def said : Option (Except ProcessorFailure Row) :=
  (processors.reverse.lookup processorId).map fun duty => answer duty documentId

/-- Among processors that were registered in turn an execution asks the last one that goes by the id. -/
theorem pursues_execute :
    Pursues { c with registry := .ofList processors } documentId processorId s
      (.of (said processors answer documentId processorId))
      (execute { c with registry := .ofList processors } answer documentId processorId) := by
  rw [execute_eq, said]
  simp only [Registry.find?_ofList]
  cases processors.reverse.lookup processorId with
  | none => exact pursues_refuse _ documentId processorId s
  | some duty => exact pursues_settle _ documentId processorId s ⟨processorId, duty⟩ rfl _

/-- Whether a row is the complete answer of the processor, under the id that was asked for. -/
def IsResult (row : Row) : Prop :=
  ∃ answered, said processors answer documentId processorId = some (.ok answered) ∧
    answered.status = .complete ∧ row = { answered with processorId }

/-- Whether a row records that there is no processor of the id, or that the processor cannot process the
document. -/
def IsRefusal (now : Timestamp) (row : Row) : Prop :=
  (processorId ∉ processors.map Prod.fst ∧
    row = .unprocessable documentId processorId "processor not found" now) ∨
  ∃ answered, said processors answer documentId processorId = some (.ok answered) ∧
    answered.status = .unprocessable ∧
    row = .unprocessable documentId processorId "Unprocessable document" now

variable {processors answer documentId processorId}

theorem said_eq_none :
    said processors answer documentId processorId = none ↔
      processorId ∉ processors.map Prod.fst := by
  simp only [said, Option.map_eq_none_iff, List.lookup_eq_none_iff, List.mem_reverse, bne_iff_ne]
  grind

theorem result?_of_said {row : Row} :
    (Finding.of (said processors answer documentId processorId)).result? processorId = some row ↔
      IsResult processors answer documentId processorId row := by
  unfold IsResult
  cases said processors answer documentId processorId with
  | none => simp [Finding.of, Finding.result?]
  | some outcome =>
      cases outcome with
      | error => simp [Finding.of, Finding.result?]
      | ok answered =>
          cases status : answered.status <;>
            simp [Finding.of, Finding.result?, status, eq_comm (b := row)]

theorem refusal?_of_said {now : Timestamp} {row : Row} :
    (Finding.of (said processors answer documentId processorId)).refusal? documentId processorId now
        = some row ↔ IsRefusal processors answer documentId processorId now row := by
  have unknown : processorId ∉ processors.map Prod.fst ↔
      said processors answer documentId processorId = none := said_eq_none.symm
  simp only [IsRefusal, unknown]
  cases said processors answer documentId processorId with
  | none => simp [Finding.of, Finding.refusal?, eq_comm (b := row)]
  | some outcome =>
      cases outcome with
      | error => simp [Finding.of, Finding.refusal?]
      | ok answered =>
          cases status : answered.status <;>
            simp [Finding.of, Finding.refusal?, status, eq_comm (b := row)]

end Dossier.Service
