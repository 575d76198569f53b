import Dossier.Consumer.Events
import Dossier.Consumer.Requests
import Dossier.Ingress
import Dossier.Service.Results

/-! # Scripts

A rehearsal runs the service with processors that follow scripts, on a clock that jumps from one thing
that happens to the next. What a processor does at its calls, and how long it takes, is laid down
beforehand.
-/

namespace Dossier

/-- What a processor does when it is called. -/
inductive Act where
  /-- It answers with a row, which is for the document it was asked for unless another is named. -/
  | answer (documentId : Option Uuid) (row : Row)
  /-- It has no answer. -/
  | fail (failure : ProcessorFailure)
  /-- It takes down whoever waits for it. -/
  | collapse
  deriving Repr

/-- The answer of an act, if there is anyone left to hear it. -/
def Act.answer? (act : Act) (asked : Uuid) : Option (Except ProcessorFailure Row) :=
  match act with
  | .answer documentId row => some (.ok { row with documentId := documentId.getD asked })
  | .fail failure => some (.error failure)
  | .collapse => none

/-- What a processor does at one call, and after how many milliseconds. -/
structure Cue where
  delayMs : Nat
  act : Act
  deriving Repr

structure Script where
  id : String
  cues : List Cue
  deriving Repr

/-- What a processor does when it was called `calls` times before: once it is through with its script
it does the last thing over and over. -/
def Script.cue (s : Script) (calls : Nat) : Cue :=
  s.cues.getD (min calls (s.cues.length - 1)) ⟨0, .collapse⟩

/-- A rehearsal: the service, and the ids of the processors that were called so far. -/
structure Rehearsal where
  service : Service
  called : List String := []
  deriving Repr

abbrev Scene (α : Type) := StateM Rehearsal α

namespace Rehearsal

def perform {α : Type} (work : StateM Service α) : Scene α := fun r =>
  let (answer, service) := work r.service
  (answer, { r with service })

def call (script : Script) : Scene Cue := fun r =>
  (script.cue (r.called.count script.id), { r with called := r.called ++ [script.id] })

def day : Nat := 86400000

def pass (ms : Nat) : Scene Unit := do
  perform (Service.waitUntil ((← get).service.now + ms))

/-- A processor is called and heard out. -/
def consult (script : Script) (asked : Uuid) : Scene (Option (Except ProcessorFailure Row)) := do
  let cue ← call script
  pass cue.delayMs
  return cue.act.answer? asked

/-- A processor is run on a document, with time passing until it answers. -/
def execute (c : Collaborators Script) (documentId : Uuid) (processorId : String) :
    Scene (Option (Except ProcessingFailure Row)) := do
  match c.registry.find? processorId with
  | none => return some (← perform (Service.refuse c documentId processorId).run)
  | some processor => match ← consult processor.duty documentId with
    | none => return none
    | some answer =>
        return some (← perform (Service.settle c documentId processorId processor answer).run)

/-- A delivery is handled by the consumer of requests, with time passing until the processor
answers. -/
def handleRequest (c : Collaborators Script) (q : QueueSettings) (d : Delivery) :
    Scene (Option Receipt) := do
  match ← perform (RequestConsumer.start c q d) with
  | .done receipt => return some receipt
  | .calling processor request => match ← consult processor.duty request.documentId with
    | none => return none
    | some answer =>
        return some (← perform (RequestConsumer.finish c q d processor request answer))

/-- A delivery is handled by the consumer of its topic. Nobody handles completions here. -/
def handle (c : Collaborators Script) (q : QueueSettings) :
    Channel → Delivery → Scene (Option Receipt)
  | .requests, d => handleRequest c q d
  | .events, d => return some (← perform (EventConsumer.handle c q d))
  | .completions, _ => return some .ack

def takeFrom (channel : Channel) : Scene (Option Delivery) := fun r =>
  match (r.service.topics.get channel).take? with
  | none => (none, r)
  | some (d, topic) =>
      (some d, { r with service.topics := r.service.topics.set channel topic })

def takeAll (channel : Channel) : Scene (List Delivery) := fun r =>
  let topic := r.service.topics.get channel
  (topic.waiting, { r with
    service.topics := r.service.topics.set channel { topic with taken := topic.sent.length } })

end Rehearsal

end Dossier
