import Dossier.Rehearsal.Crew

/-! # Steps of a rehearsal

A rehearsal is a list of steps. Each is reported with its outcome and with what it caused: the rows
that were saved, and what came to the topics. After each step a day passes.
-/

namespace Dossier.Rehearsal

inductive Step where
  | initiate (documentId : Uuid) (processorIds : List String) (again : Bool)
  | filter (documentId : Uuid) (processorIds : List String) (again : Bool)
  | enqueue (documentId : Uuid) (processorIds : List String)
  | execute (documentId : Uuid) (processorId : String)
  /-- The rows of a document, the earliest first. -/
  | results (documentId : Uuid)
  /-- The rows of a document from some processors, or only their number. -/
  | resultsFrom (documentId : Uuid) (processorIds : List String) (countOnly : Bool)
  /-- The rows of a document, straight from the store. -/
  | stored (documentId : Uuid)
  /-- Save the row that a text holds. -/
  | save (text : String)
  /-- The ids of all processors. -/
  | registered
  /-- Answer one line of a conversation. -/
  | line (text : String)
  /-- Hold a whole conversation, with its end put off for a day if `lingering`. -/
  | converse (lines : List String) (lingering : Bool) (outputLimit : Option Nat)
  | event (event : Event)
  | publish (channel : Channel) (payload : String)
  /-- Put a delivery off. -/
  | putOff (channel : Channel) (delivery : Delivery) (delayMs limit : Nat)
  | close (channel : Channel)
  /-- Hand a delivery to the consumer of a topic. -/
  | deliver (channel : Channel) (delivery : Delivery)
  /-- Hand the deliveries that wait to the consumer of their topic, one a day. -/
  | drain (channel : Channel) (limit : Nat)
  /-- Let the consumer of a topic run. -/
  | run (channel : Channel) (stop : Stop)
  /-- Put a record into the table behind the back of the service. -/
  | insert (record : Record)
  | dropTable
  /-- The records of the table. -/
  | dump
  /-- Open the table once more and list the rows of a document. -/
  | reopen (documentId : Uuid)
  deriving Repr

inductive Outcome where
  | done
  | text (s : String)
  | texts (ss : List String)
  | row (row : Row)
  | rows (rows : List Row)
  | count (n : Nat)
  | flag (b : Bool)
  | receipt (r : Receipt)
  | deliveries (ds : List Delivery)
  | receipts (rs : List (Delivery × Receipt))
  | records (rs : List Record)
  | failed (failure : ServiceFailure)
  | notProcessed (failure : ProcessingFailure)
  | notHandled (failure : EventFailure)
  | malformed (fault : Json.Fault)
  /-- Nobody receives the messages of a topic. -/
  | closed (channel : Channel)
  | outputFull (written : String)
  /-- A processor has taken down whoever waited for it. -/
  | collapsed
  deriving Repr

structure Report where
  outcome : Outcome
  /-- After how many milliseconds a message was sent again, if the step has put one off. -/
  afterMs : Option Nat
  saved : List Row
  requests : List Delivery
  completions : List Delivery
  events : List Delivery
  deriving Repr

def Outcome.ofAttempt {α : Type} (good : α → Outcome) : Except ServiceFailure α → Outcome
  | .ok value => good value
  | .error failure => .failed failure

def attempt {α : Type} (good : α → Outcome) (work : Attempt ServiceFailure α) : Scene Outcome := do
  return .ofAttempt good (← perform work.run)

/-- Messages are sent again until one comes to a topic; the time that this takes, at most a day. -/
def awaitArrival (channel : Channel) (start deadline sent : Nat) : Nat → Scene (Option Nat)
  | 0 => return none
  | count + 1 => do
      if ← perform (Service.resendNext deadline) then
        let s := (← get).service
        if sent < (s.topics.get channel).sent.length then return some (s.now - start)
        else awaitArrival channel start deadline sent count
      else
        perform (Service.waitUntil deadline)
        return none

/-- Waits for the next message on a topic, at most a day. -/
def afterArrival (channel : Channel) : Scene (Option Nat) := do
  let s := (← get).service
  awaitArrival channel s.now (s.now + day) (s.topics.get channel).sent.length (s.agenda.length + 1)

/-- Deliveries are taken and handled, one a day. `none` if a processor has collapsed. -/
def drain (c : Collaborators Script) (q : QueueSettings) (channel : Channel) :
    Nat → Scene (Option (List (Delivery × Receipt)))
  | 0 => return some []
  | limit + 1 => do
      match ← takeFrom channel with
      | none => return some []
      | some d => match ← handle c q channel d with
        | none => return none
        | some receipt =>
            pass day
            return (← drain c q channel limit).map ((d, receipt) :: ·)

/-- A conversation whose end is put off for a day. -/
def converseLingering (c : Collaborators Script) (limit : Option Nat) (lines : List String) :
    Scene (String × Ingress.Ending) := do
  perform (Service.tell .info "Command ingress started" [])
  let (written, ending) ← perform (Ingress.converse c limit lines "")
  if ending = .finished then
    pass day
    perform (Service.tell .info "Command ingress stopped" [])
  return (written, ending)

/-- Changes the table behind the back of the service. -/
def changeTable (change : Table → Except DatabaseFailure Table) : Scene Outcome := do
  match (← get).service.store with
  | .memory _ => return .done
  | .table table => match change table with
    | .error failure => return .failed (.database failure)
    | .ok table =>
        modify fun r => { r with service.store := .table table }
        return .done

/-- Carries out a step, up to the day that passes after it. -/
def enact (c : Collaborators Script) (q : QueueSettings) : Step → Scene (Outcome × Option Nat)
  | .initiate documentId processorIds again => do
      return (← attempt (fun _ => .done) (Service.initiate c documentId processorIds again), none)
  | .filter documentId processorIds again => do
      return (← attempt .texts (Service.filter c documentId processorIds again), none)
  | .enqueue documentId processorIds => do
      return (← attempt (fun _ => .done) (Service.enqueue c documentId processorIds), none)
  | .execute documentId processorId => do
      match ← execute c documentId processorId with
      | none => return (.collapsed, none)
      | some (.ok row) => return (.row row, none)
      | some (.error failure) => return (.notProcessed failure, none)
  | .results documentId => do
      return (← attempt .rows (Service.results c documentId), none)
  | .resultsFrom documentId processorIds countOnly => do
      let good (rows : List Row) : Outcome := if countOnly then .count rows.length else .rows rows
      return (← attempt good (Service.resultsFrom c documentId processorIds), none)
  | .stored documentId => do
      let found := (← get).service.store.find documentId
      return (.ofAttempt .rows (found.mapError .database), none)
  | .save text => do
      match Row.read text with
      | .error fault => return (.malformed fault, none)
      | .ok row => return (← attempt (fun _ => .done) (Service.save c row), none)
  | .registered => return (.texts c.registry.ids, none)
  | .line text => do
      return (.text (← perform (Ingress.answer c text)).text, none)
  | .converse lines lingering limit => do
      let (written, ending) ←
        if lingering then converseLingering c limit lines
        else perform (Ingress.run c limit lines)
      return (if ending = .finished then .text written else .outputFull written, none)
  | .event event => do
      match ← perform (Service.handleEvent c event).run with
      | .ok () => return (.done, none)
      | .error failure => return (.notHandled failure, none)
  | .publish channel payload => do
      match ← perform (Service.publish channel payload).run with
      | .ok () => return (.text channel.name, none)
      | .error channel => return (.closed channel, none)
  | .putOff channel d delayMs limit => do
      let again ← perform (Service.putOff channel d delayMs limit)
      return (.flag again, ← afterArrival channel)
  | .close channel => do
      modify fun r => { r with
        service.topics := r.service.topics.set channel (r.service.topics.get channel).close }
      return (.done, none)
  | .deliver channel d => do
      match ← handle c q channel d with
      | none => return (.collapsed, none)
      | some receipt => return (.receipt receipt, ← afterArrival channel)
  | .drain channel limit => do
      match ← drain c q channel limit with
      | none => return (.collapsed, none)
      | some receipts => return (.receipts receipts, none)
  | .run .requests stop => do return (.deliveries (← runRequests c q stop), none)
  | .run .events stop => do return (.deliveries (← runEvents c q stop), none)
  | .run .completions _ => return (.deliveries [], none)
  | .insert record => do return (← changeTable (·.insert record), none)
  | .dropTable => do return (← changeTable fun _ => .ok ⟨none⟩, none)
  | .dump => do
      match (← get).service.store with
      | .memory _ => return (.records [], none)
      | .table table => match table.all with
        | .error failure => return (.failed (.database failure), none)
        | .ok records => return (.records records, none)
  | .reopen documentId => do
      match (← get).service.store with
      | .memory _ => return (.rows [], none)
      | .table table =>
          let table := table.reopen
          modify fun r => { r with service.store := .table table }
          return (.ofAttempt .rows ((table.find documentId).mapError .database), none)

/-- How many of the deliveries of a topic a step does not report as new: those that were there before
it, and those that it has handled itself and reports as its outcome. -/
def reportedFrom (before after : Topics) (step : Step) (channel : Channel) : Nat :=
  let known := (before.get channel).sent.length
  match step with
  | .drain handled _ => if handled = channel then (after.get channel).sent.length else known
  | .run handled _ => if handled = channel then max known (after.get channel).taken else known
  | _ => known

/-- Carries out a step, lets a day pass, and reports. -/
def play (c : Collaborators Script) (q : QueueSettings) (step : Step) : Scene Report := do
  let before := (← get).service
  let (outcome, afterMs) ← enact c q step
  let between := (← get).service.topics
  pass day
  let after := (← get).service
  let news (channel : Channel) : List Delivery :=
    (after.topics.get channel).sent.drop (reportedFrom before.topics between step channel)
  return {
    outcome, afterMs
    saved := after.saved.drop before.saved.length
    requests := news .requests
    completions := news .completions
    events := news .events }

def playAll (c : Collaborators Script) (q : QueueSettings) : List Step → Scene (List Report)
  | [] => return []
  | step :: rest => do
      let report ← play c q step
      return report :: (← playAll c q rest)

/-- What is told when the processors of a rehearsal are registered, and the registry. -/
def cast (scripts : List Script) : Registry Script × Log :=
  Registry.empty.registerAll (scripts.map fun script => (script.id, script))

end Dossier.Rehearsal
