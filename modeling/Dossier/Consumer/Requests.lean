import Dossier.Consumer.Redelivery
import Dossier.Message.Request
import Dossier.Service.Execution
import Dossier.Settings.Basic

/-! # Consuming requests

A delivery on the topic of requests is decoded and executed. Processors may take their time, so the
work on a delivery has two parts: what is done before the processor answers, and what is done with its
answer.
-/

namespace Dossier

universe u v

def Receipt.ofOutcome : Except ProcessingFailure Row → Receipt
  | .ok _ => .ack
  | .error failure => match failure.kind with
    | .unretryable => .ack
    | .retryable => .nack

/-- A delivery in the hands of a consumer. -/
inductive Handling (π : Type) where
  /-- The work on it is done. -/
  | done (receipt : Receipt)
  /-- A processor is at work on it. -/
  | calling (processor : Processor π) (request : Request)

namespace Procedure

open Service (Defers executionFields)
open Works

variable {π : Type} {m : Type → Type → Type u} {w : Type → Type v} [∀ ε, Monad (m ε)] [Steps m]
  [Dealings π m] [Monad w] [Works w m] [Defers w]

/-- What follows from an outcome: a request that failed for now is sent again. -/
def conclude (q : QueueSettings) (d : Delivery) (request : Request)
    (outcome : Except ProcessingFailure Row) : w Receipt := do
  let fields := executionFields request.documentId request.processor.id
  match outcome with
  | .ok _ => tell .info "Document processing completed" fields
  | .error (.unretryable message) =>
      tell .error "Document processing failed permanently" (fields ++ [("error", message)])
  | .error failure@(.retryable _ _) =>
      tell .warn "Document processing will be retried"
        (fields ++ [("attempt", Number.decimal d.attempt), ("error", failure.chainText)])
      let _ ← Defers.putOff .requests d q.redeliveryDelayMs q.maxDeliveries
  return .ofOutcome outcome

/-- The work on a delivery up to the call of a processor. A message that is no request is dropped. -/
def start (c : Collaborators π) (q : QueueSettings) (d : Delivery) : w (Handling π) := do
  match Request.read d.payload with
  | .error fault =>
      tell .error "Dropping undecodable processing request"
        [("error", fault.message), ("payload", d.payload)]
      return .done .ack
  | .ok request => match c.registry.find? request.processor.id with
    | some processor => return .calling processor request
    | none =>
        let outcome ← attempt (refuse c request.documentId request.processor.id)
        return .done (← conclude q d request outcome)

/-- The work on a delivery from the answer of its processor on. -/
def finish (c : Collaborators π) (q : QueueSettings) (d : Delivery) (processor : Processor π)
    (request : Request) (answer : Except ProcessorFailure Row) : w Receipt := do
  let outcome ← attempt (settle c request.documentId request.processor.id processor answer)
  conclude q d request outcome

/-- The whole work on a delivery; `call` is how a processor is called that has a duty. -/
def consumeRequest (c : Collaborators π) (q : QueueSettings)
    (call : π → Uuid → w (Except ProcessorFailure Row)) (d : Delivery) : w Receipt := do
  match ← start c q d with
  | .done receipt => return receipt
  | .calling processor request =>
      finish c q d processor request (← call processor.duty request.documentId)

end Procedure

namespace RequestConsumer

variable {π : Type}

def conclude (q : QueueSettings) (d : Delivery) (request : Request)
    (outcome : Except ProcessingFailure Row) : StateM Service Receipt :=
  Procedure.conclude q d request outcome

def start (c : Collaborators π) (q : QueueSettings) (d : Delivery) : StateM Service (Handling π) :=
  Procedure.start c q d

def finish (c : Collaborators π) (q : QueueSettings) (d : Delivery) (processor : Processor π)
    (request : Request) (answer : Except ProcessorFailure Row) : StateM Service Receipt :=
  Procedure.finish c q d processor request answer

/-- The whole work on a delivery; `answer` is what a processor answers that has a duty. -/
def handle (c : Collaborators π) (q : QueueSettings)
    (answer : π → Uuid → Except ProcessorFailure Row) (d : Delivery) : StateM Service Receipt :=
  Procedure.consumeRequest c q (fun duty documentId => pure (answer duty documentId)) d

end RequestConsumer

end Dossier
