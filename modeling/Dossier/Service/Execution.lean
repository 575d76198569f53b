import Dossier.Failure.Processing
import Dossier.Service.Steps

/-! # Execution

Running one processor on one document, once. The status of the processor's answer decides: a complete
result is saved and announced, an unprocessable document is recorded as such, and all else is for
another try.
-/

namespace Dossier

universe u v

def Service.executionFields (documentId : Uuid) (processorId : String) : List (String × String) :=
  [("doc_id", documentId.text), ("processor_id", processorId)]

namespace Procedure

open Steps Dealings
open Service (executionFields)

variable {π : Type} {m : Type → Type → Type u} [∀ ε, Monad (m ε)] [Steps m] [Dealings π m]

/-- Records that a document cannot be processed. -/
def recordUnprocessable (c : Collaborators π) (documentId : Uuid) (processorId error : String) :
    m ProcessingFailure Unit := do
  let row := Row.unprocessable documentId processorId error (← readClock c)
  explain (fun failure =>
    .retryable "Failed to record unprocessable result" (some (.service failure))) (save c row)

/-- What is done for a processor that is not registered. -/
def refuse (c : Collaborators π) (documentId : Uuid) (processorId : String) :
    m ProcessingFailure Row := do
  tell .error "Processor not found"
    [("processor_id", processorId), ("doc_id", documentId.text)]
  recordUnprocessable c documentId processorId "processor not found"
  fail (.unretryable "Processor not found")

/-- What is done for a processor that has no answer. -/
def postpone (documentId : Uuid) (processorId : String) (failure : ProcessorFailure) :
    m ProcessingFailure Row := do
  tell .warn "Processor failed without classifying the outcome, will be retried"
    (executionFields documentId processorId ++
      [("error", (Failure.processor failure).chainText)])
  fail (.retryable
    ("Processor " ++ processorId ++ " failed for document " ++ documentId.text)
    (some (.processor failure)))

/-- Saves a complete result under the id that its processor goes by, and announces it. -/
def complete (c : Collaborators π) (documentId : Uuid) (processor : Processor π) (answer : Row) :
    m ProcessingFailure Row := do
  let row := { answer with processorId := processor.id }
  explain (fun failure =>
    .retryable "Failed to persist processing result" (some (.service failure))) (save c row)
  explain (fun channel =>
    .retryable "Failed to publish processing result" (some (.closed channel.name)))
    (publish .completions row.text)
  tell .debug "Document processing result was successfully published"
    (executionFields documentId row.processorId)
  return row

/-- Records what a processor says of a document that it cannot process. -/
def giveUp (c : Collaborators π) (documentId : Uuid) (processorId : String) (payload : Payload) :
    m ProcessingFailure Row := do
  let message := "An unretryable error occurred for document: " ++ documentId.text
  tell .error message (executionFields documentId processorId ++
    (payload.error?.map fun detail => ("error", detail)).toList)
  recordUnprocessable c documentId processorId "Unprocessable document"
  fail (.unretryable (payload.error?.getD message))

/-- What is done with the answer of a processor that stands under an id. -/
def settle (c : Collaborators π) (documentId : Uuid) (processorId : String)
    (processor : Processor π) (answer : Except ProcessorFailure Row) :
    m ProcessingFailure Row :=
  match answer with
  | .error failure => postpone documentId processorId failure
  | .ok row => match row.status with
    | .complete => complete c documentId processor row
    | .unprocessable => giveUp c documentId processorId row.result
    | .missingDependency => do
        tell .warn "Dependency missing for processing document, will be retried"
          (executionFields documentId processorId)
        fail (.retryable "Missing dependency" none)
    | .pending | .other _ =>
        fail (.retryable ("Document " ++ documentId.text ++
          " request could not be completed and will be retried. Status: " ++ row.status.text) none)

/-- Runs a processor on a document; `call` is how a processor is called that has a duty. -/
def execute {w : Type → Type v} [Monad w] [Works w m] (c : Collaborators π)
    (call : π → Uuid → w (Except ProcessorFailure Row)) (documentId : Uuid) (processorId : String) :
    w (Except ProcessingFailure Row) := do
  match c.registry.find? processorId with
  | none => Works.attempt (refuse c documentId processorId)
  | some processor =>
      let answer ← call processor.duty documentId
      Works.attempt (settle c documentId processorId processor answer)

end Procedure

namespace Service

variable {π : Type}

def recordUnprocessable (c : Collaborators π) (documentId : Uuid) (processorId error : String) :
    Attempt ProcessingFailure Unit :=
  Procedure.recordUnprocessable c documentId processorId error

def refuse (c : Collaborators π) (documentId : Uuid) (processorId : String) : Attempt ProcessingFailure Row :=
  Procedure.refuse c documentId processorId

def complete (c : Collaborators π) (documentId : Uuid) (processor : Processor π) (answer : Row) :
    Attempt ProcessingFailure Row :=
  Procedure.complete c documentId processor answer

def settle (c : Collaborators π) (documentId : Uuid) (processorId : String) (processor : Processor π)
    (answer : Except ProcessorFailure Row) : Attempt ProcessingFailure Row :=
  Procedure.settle c documentId processorId processor answer

/-- Runs a processor on a document; `answer` is what one answers that has a duty. -/
def execute (c : Collaborators π) (answer : π → Uuid → Except ProcessorFailure Row)
    (documentId : Uuid) (processorId : String) : Attempt ProcessingFailure Row :=
  (Procedure.execute c (fun duty documentId => pure (answer duty documentId)) documentId processorId :
    StateM Service _)

end Service

end Dossier
