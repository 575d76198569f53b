import Dossier.Consumer.Redelivery
import Dossier.Message.Event
import Dossier.Service.Initiation
import Dossier.Settings.Basic

/-! # Consuming events

An event asks for its processors to be run on its document. None of them is run again, so that an event
that comes twice does no harm.
-/

namespace Dossier

universe u v

/-- Whether a failure may be gone at the next try. -/
def ServiceFailure.isTransient : ServiceFailure → Bool
  | .database _ | .closed _ | .scan _ => true
  | .notAvailable _ | .badInput _ | .config _ | .serialization _ => false

namespace Procedure

open Service (Defers)
open Works

variable {m : Type → Type → Type u} {w : Type → Type v} [Monad w] [Works w m] [Defers w]

/-- Tells of an initiation that failed for which event it was. -/
def report (event : Event) : Except ServiceFailure Unit → w (Except EventFailure Unit)
  | .ok () => return .ok ()
  | .error failure => do
      tell .error "Error processing document"
        [("event_id", event.id.text), ("doc_id", event.documentId.text),
          ("error", failure.chainText)]
      return .error ⟨event.id.text, failure⟩

/-- What is done for an event; `initiate` is how an initiation is done. -/
def handleEvent (initiate : Uuid → List String → Bool → w (Except ServiceFailure Unit)) (event : Event) :
    w (Except EventFailure Unit) := do
  tell .debug "Received event" [("event_id", event.id.text), ("event_type", event.kind)]
  report event (← initiate event.documentId event.processorIds false)

/-- What follows from what came of an event: one that failed for now is sent again. -/
def acknowledge (q : QueueSettings) (d : Delivery) : Except EventFailure Unit → w Receipt
  | .ok () => return .ack
  | .error failure => do
      if failure.source.isTransient then
        tell .warn "Event will be retried"
          [("event_id", failure.eventId), ("attempt", Number.decimal d.attempt)]
        let _ ← Defers.putOff .events d q.redeliveryDelayMs q.maxDeliveries
        return .nack
      else return .ack

/-- The work on a delivery from its event on. -/
def respond (initiate : Uuid → List String → Bool → w (Except ServiceFailure Unit)) (q : QueueSettings)
    (d : Delivery) (event : Event) : w Receipt := do
  acknowledge q d (← handleEvent initiate event)

/-- The whole work on a delivery. A message that is no event is dropped. -/
def consumeEvent (initiate : Uuid → List String → Bool → w (Except ServiceFailure Unit)) (q : QueueSettings)
    (d : Delivery) : w Receipt :=
  match Event.read d.payload with
  | .error fault => do
      tell .error "Dropping undecodable event" [("error", fault.message), ("payload", d.payload)]
      return .ack
  | .ok event => respond initiate q d event

end Procedure

variable {π : Type}

def Service.handleEvent (c : Collaborators π) (event : Event) : Attempt EventFailure Unit :=
  (Procedure.handleEvent (fun documentId processorIds again => (initiate c documentId processorIds again).run)
    event : StateM Service _)

namespace EventConsumer

open Service

def respond (c : Collaborators π) (q : QueueSettings) (d : Delivery) (event : Event) : StateM Service Receipt :=
  Procedure.respond (fun documentId processorIds again => (initiate c documentId processorIds again).run) q d event

def handle (c : Collaborators π) (q : QueueSettings) (d : Delivery) : StateM Service Receipt :=
  Procedure.consumeEvent (fun documentId processorIds again => (initiate c documentId processorIds again).run) q d

end EventConsumer

end Dossier
