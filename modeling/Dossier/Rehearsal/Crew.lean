import Dossier.Rehearsal.Script

/-! # Crews

The consumers at work on their topics until they are stopped. The consumer of requests has a crew of
workers: it takes a delivery first and then waits for a free worker, so that whatever it has taken is
executed. All that happens at one millisecond happens in this order: workers finish in the order in
which they began, messages are sent again, free workers take up new deliveries.
-/

namespace Dossier

inductive Stop where
  /-- It is given what waits, and nothing will come any more. -/
  | close
  /-- It is told to stop after some milliseconds, and until then is given all that comes. -/
  | shutdown (afterMs : Nat)
  deriving Repr, DecidableEq

/-- A worker that waits for a processor. -/
structure Job where
  /-- The millisecond at which the processor answers. -/
  due : Nat
  delivery : Delivery
  processor : Processor Script
  request : Request
  act : Act

/-- The consumer of requests with its workers. -/
structure Crew where
  /-- How many workers are free. -/
  free : Nat
  /-- The deliveries that it was given and has not taken. -/
  inbox : List Delivery
  /-- The delivery that it has taken and has no worker for. -/
  held : Option Delivery := none
  /-- The deliveries whose workers have not begun. -/
  ready : List Delivery := []
  /-- The workers that wait for processors, in the order in which they began. -/
  busy : List Job := []
  /-- The workers that have finished since a delivery was last taken up. -/
  finished : Nat := 0
  /-- Whether it takes deliveries. -/
  accepting : Bool := true
  /-- All deliveries that it was given. -/
  given : List Delivery

namespace Crew

/-- The held delivery gets a worker, if one is free. -/
def assign (crew : Crew) : Crew :=
  match crew.held with
  | some d =>
      if crew.free = 0 then crew
      else { crew with
        held := none, free := crew.free - 1, ready := crew.ready ++ [d], finished := 0 }
  | none => crew

/-- Deliveries are taken while there are workers for them. -/
def fill : List Delivery → Crew → Crew
  | [], crew => { crew with inbox := [] }
  | d :: rest, crew =>
      let crew := assign { crew with held := some d }
      if crew.held.isSome then { crew with inbox := rest } else fill rest crew

/-- Deliveries are taken, unless the consumer is told to stop. -/
def takeUp (crew : Crew) (told : Bool) : Crew :=
  let crew := crew.assign
  if crew.held.isSome || told || !crew.accepting then crew else fill crew.inbox crew

def inFlight (crew : Crew) : Nat := crew.ready.length + crew.busy.length + crew.finished

def release (crew : Crew) : Crew :=
  { crew with free := crew.free + 1, finished := crew.finished + 1 }

end Crew

namespace Rehearsal

def standDown (crew : Crew) : Scene Crew := do
  if 0 < crew.inFlight then
    perform (Service.tell .info "Waiting for in-flight deliveries"
      [("in_flight", Number.decimal crew.inFlight)])
  return { crew with accepting := false }

def hear (c : Collaborators Script) (q : QueueSettings) (crew : Crew) (job : Job) : Scene Crew := do
  match job.act.answer? job.request.documentId with
  | some answer =>
      let _ ← perform
        (RequestConsumer.finish c q job.delivery job.processor job.request answer)
      return crew.release
  | none =>
      perform (Service.tell .error "Delivery task failed" [("error", "task panicked")])
      return crew.release

def begin (c : Collaborators Script) (q : QueueSettings) (crew : Crew) (d : Delivery) :
    Scene Crew := do
  match ← perform (RequestConsumer.start c q d) with
  | .done _ => return crew.release
  | .calling processor request =>
      let cue ← call processor.duty
      let job : Job := ⟨(← get).service.now + cue.delayMs, d, processor, request, cue.act⟩
      if cue.delayMs = 0 then hear c q crew job
      else return { crew with busy := crew.busy ++ [job] }

def forEach {α : Type} (work : Crew → α → Scene Crew) : List α → Crew → Scene Crew
  | [], crew => return crew
  | x :: rest, crew => do forEach work rest (← work crew x)

def least? (numbers : List Nat) : Option Nat := numbers.min?

/-- The crew at work; `deadline` is when it is told to stop, if it has not been. -/
def workOn (c : Collaborators Script) (q : QueueSettings) :
    Nat → Option Nat → Bool → Crew → Scene Crew
  | 0, _, _, crew => return crew
  | fuel + 1, deadline, told, crew => do
      let crew := crew.takeUp told
      let quiet := crew.held.isNone && (told || (deadline.isNone && crew.inbox.isEmpty))
      let crew ← if crew.accepting && quiet then standDown crew else pure crew
      let now := (← get).service.now
      let due := ((← get).service.nextDue?).any (· ≤ now)
      if !crew.ready.isEmpty || due then
        let crew ← forEach (begin c q) crew.ready { crew with ready := [] }
        settleInstant fuel deadline told crew
      else if !crew.accepting && crew.busy.isEmpty && crew.held.isNone then return crew
      else
        let times := crew.busy.map Job.due ++ ((← get).service.nextDue?).toList ++ deadline.toList
        match least? times with
        | none => return crew
        | some time =>
            modify fun r => { r with service.now := max r.service.now time }
            let told := told || deadline == some time
            let deadline := if deadline == some time then none else deadline
            let (ripe, busy) := crew.busy.partition (·.due ≤ time)
            let crew ← forEach (hear c q) ripe { crew with busy }
            settleInstant fuel deadline told crew
where
  /-- Messages whose time has come are sent again, and the consumer is given what has come. -/
  settleInstant (fuel : Nat) (deadline : Option Nat) (told : Bool) (crew : Crew) : Scene Crew := do
    perform (Service.waitUntil (← get).service.now)
    let news ← if deadline.isSome then takeAll .requests else pure []
    workOn c q fuel deadline told
      { crew with inbox := crew.inbox ++ news, given := crew.given ++ news }

/-- A bound on how much can happen while deliveries are handled and sent again. -/
def busyness (q : QueueSettings) : Scene Nat := do
  let s := (← get).service
  return 4 * (s.topics.requests.sent.length + s.topics.events.sent.length + s.agenda.length + 2) *
    (q.maxDeliveries + 2)

/-- The consumer of requests at work until it stops; all deliveries that it was given. -/
def runRequests (c : Collaborators Script) (q : QueueSettings) (stop : Stop) :
    Scene (List Delivery) := do
  let fuel ← busyness q
  let waiting ← takeAll .requests
  perform (Service.tell .info "Processing request consumer started"
    [("topic", Channel.requests.name), ("workers", Number.decimal q.permits)])
  let deadline ← match stop with
    | .close => pure none
    | .shutdown afterMs => pure (some ((← get).service.now + afterMs))
  let crew ← workOn c q fuel deadline false ⟨q.permits, waiting, none, [], [], 0, true, waiting⟩
  perform (Service.tell .info "Processing request consumer stopped"
    [("topic", Channel.requests.name)])
  return crew.given

/-- The consumer of events handles all that it was given, and then what comes until `deadline`. -/
def attend (c : Collaborators Script) (q : QueueSettings) (deadline : Option Nat) :
    Nat → List Delivery → Scene (List Delivery)
  | 0, _ => return []
  | fuel + 1, inbox => do
      for d in inbox do
        let _ ← perform (EventConsumer.handle c q d)
      match deadline with
      | none => return inbox
      | some time =>
          let due := (← get).service.nextDue?
          if due.any (· < time) then
            perform (Service.waitUntil (due.getD 0))
            return inbox ++ (← attend c q deadline fuel (← takeAll .events))
          else
            modify fun r => { r with service.now := max r.service.now time }
            return inbox

/-- The consumer of events at work until it stops; all deliveries that it was given. -/
def runEvents (c : Collaborators Script) (q : QueueSettings) (stop : Stop) :
    Scene (List Delivery) := do
  let fuel ← busyness q
  let waiting ← takeAll .events
  perform (Service.tell .info "Event consumer started" [("topic", Channel.events.name)])
  let deadline ← match stop with
    | .close => pure none
    | .shutdown afterMs => pure (some ((← get).service.now + afterMs))
  let given ← attend c q deadline fuel waiting
  perform (Service.tell .info "Event consumer stopped" [("topic", Channel.events.name)])
  return given

end Rehearsal

end Dossier
