import Dossier.Proofs.Consumer.Carriage
import Dossier.Proofs.Service.Work

/-! # The work of the components

What is done with a line, with a delivery of an event and with a delivery of a request, each as work that others
can take turns with. Done without a break it is what the component does, and what holds of the parts of work in
general holds of it. Main statements: `Work.run_line`, `Work.run_event` and `Work.run_request`, and the lemmas of
`Work.Compositional`.
-/

namespace Dossier.Service

variable {π ε α : Type}

instance : LawfulMonad (Work π) :=
  .mk' (Work π)
    (fun work => by
      induction work with
      | done a => rfl
      | doing act rest ih => exact congrArg (Work.doing act) (funext ih))
    (fun _ _ => rfl)
    (fun work next last => by
      induction work with
      | done a => rfl
      | doing act rest ih => exact congrArg (Work.doing act) (funext ih))

instance : Works (Work π) (Task π) where
  attempt := Work.ofTask
  tell := Work.tell

instance : Defers (Work π) :=
  ⟨Work.putOff⟩

namespace Task

/-- What is left to do of a command. -/
def serve (c : Collaborators π) (command : Command) : Task π ServiceFailure Ingress.Reply :=
  Procedure.serve c command

theorem run_serve (c : Collaborators π) (command : Command) :
    (serve c command).run = Ingress.execute c command := by
  cases command with
  | initiate event => simp [serve, Ingress.execute, Procedure.serve]
  | results documentId processors =>
      cases processors with
      | none => simp [serve, Ingress.execute, Procedure.serve, Procedure.results]
      | some processors => simp [serve, Ingress.execute, Procedure.serve, Procedure.resultsFrom]
  | record row => simp [serve, Ingress.execute, Procedure.serve]

end Task

namespace Work

/-- The work on a line. -/
def line (c : Collaborators π) (line : String) : Work π Ingress.Reply :=
  Procedure.answer c line

/-- The work on a delivery of an event. -/
def event (c : Collaborators π) (q : QueueSettings) (d : Delivery) : Work π Receipt :=
  Procedure.consumeEvent (initiate c) q d

/-- The work on an execution. -/
def execute (c : Collaborators π) (documentId : Uuid) (processorId : String) :
    Work π (Except ProcessingFailure Row) :=
  Procedure.execute c call documentId processorId

/-- What is left to do once a request was executed. -/
def conclude (q : QueueSettings) (d : Delivery) (request : Request)
    (outcome : Except ProcessingFailure Row) : Work π Receipt :=
  Procedure.conclude q d request outcome

/-- What is left to do of a request from the answer of its processor on. -/
def finish (c : Collaborators π) (q : QueueSettings) (d : Delivery) (processor : Processor π)
    (request : Request) (answer : Except ProcessorFailure Row) : Work π Receipt :=
  Procedure.finish c q d processor request answer

/-- The work on a delivery of a request. -/
def request (c : Collaborators π) (q : QueueSettings) (d : Delivery) : Work π Receipt :=
  Procedure.consumeRequest c q call d

variable (c : Collaborators π) (process : π → Uuid → Except ProcessorFailure Row) (q : QueueSettings)
  (d : Delivery)

theorem run_attempt (o : Others π) (task : Task π ε α) :
    (Works.attempt task : Work π (Except ε α)).run o = Works.attempt task.run :=
  run_ofTask o task

theorem run_told (o : Others π) (level : LogLevel) (message : String) (fields : List (String × String)) :
    (Works.tell level message fields : Work π Unit).run o = Works.tell level message fields := rfl

/-- The work on a line is the answer to it, if nobody else comes in between. -/
theorem run_line (text : String) : (line c text).run (others c process) = Ingress.answer c text := by
  unfold line Ingress.answer Procedure.answer
  cases Command.read text with
  | error fault => rfl
  | ok command =>
      have served : (Procedure.serve c command : Task π _ _).run = Procedure.serve c command :=
        Task.run_serve c command
      simp only [run_bind, run_attempt, served]
      congr 1
      funext outcome
      cases outcome with
      | ok | error => rfl

theorem run_report (event : Event) (outcome : Except ServiceFailure Unit) :
    (Procedure.report event outcome : Work π _).run (others c process) = Procedure.report event outcome := by
  cases outcome with
  | ok | error => rfl

theorem run_acknowledge (handled : Except EventFailure Unit) :
    (Procedure.acknowledge q d handled : Work π _).run (others c process) =
      Procedure.acknowledge q d handled := by
  cases handled with
  | ok done => rfl
  | error failure =>
      unfold Procedure.acknowledge
      dsimp only
      split
      · rfl
      · rfl

/-- The work on a delivery of an event is the handling of it, if nobody else comes in between. -/
theorem run_event : (event c q d).run (others c process) = EventConsumer.handle c q d := by
  unfold event EventConsumer.handle Procedure.consumeEvent
  cases Event.read d.payload with
  | error fault => rfl
  | ok event =>
      simp only [Procedure.respond, Procedure.handleEvent, run_bind, run_told, run_initiate, run_report,
        run_acknowledge]

theorem run_conclude (request : Request) (outcome : Except ProcessingFailure Row) :
    (conclude q d request outcome).run (others c process) =
      RequestConsumer.conclude q d request outcome := by
  cases outcome with
  | ok row => rfl
  | error failure =>
      cases failure with
      | unretryable message | retryable message source => rfl

theorem run_finish (processor : Processor π) (request : Request) (answer : Except ProcessorFailure Row) :
    (finish c q d processor request answer).run (others c process) =
      RequestConsumer.finish c q d processor request answer := by
  have settled : (Procedure.settle c request.documentId request.processor.id processor answer :
      Task π _ _).run = Procedure.settle c request.documentId request.processor.id processor answer :=
    Task.run_settle ..
  unfold finish RequestConsumer.finish Procedure.finish
  rw [run_bind, run_attempt, settled]
  exact congrArg _ (funext fun outcome => run_conclude c process q d request outcome)

theorem run_execute (documentId : Uuid) (processorId : String) :
    (execute c documentId processorId).run (others c process) =
      (Service.execute c process documentId processorId).run := by
  rw [execute_eq, execute, Procedure.execute]
  cases c.registry.find? processorId with
  | none => exact (run_ofTask _ _).trans (Task.run_refuse c documentId processorId)
  | some processor => exact (run_ofTask _ _).trans (Task.run_settle c documentId processorId processor _)

section

variable {c q d} {asked : Request}

theorem request_of_unread {fault : Json.Fault} (unread : Request.read d.payload = .error fault) :
    Work.request c q d = do
      tell .error "Dropping undecodable processing request"
        [("error", fault.message), ("payload", d.payload)]
      return .ack := by
  simp only [Work.request, Procedure.consumeRequest, Procedure.start, unread]
  rfl

/-- The work on a request is its execution, and what is concluded from the outcome. -/
theorem request_of_read (read : Request.read d.payload = .ok asked) :
    Work.request c q d = execute c asked.documentId asked.processor.id >>= conclude q d asked := by
  simp only [Work.request, Procedure.consumeRequest, Procedure.start, read, execute, Procedure.execute]
  cases c.registry.find? asked.processor.id with
  | none =>
      simp only [bind_assoc, pure_bind, bind_pure]
      rfl
  | some processor => rfl

end

/-- The work on a delivery of a request is the handling of it, if nobody else comes in between. -/
theorem run_request : (request c q d).run (others c process) = RequestConsumer.handle c q process d := by
  cases read : Request.read d.payload with
  | error fault =>
      rw [request_of_unread read]
      simp only [RequestConsumer.handle, Procedure.consumeRequest, Procedure.start, read]
      rfl
  | ok asked =>
      funext s
      rw [request_of_read read, run_bind, run_execute, RequestConsumer.handle_of_read read]
      exact congrArg (fun next : Except ProcessingFailure Row → StateM Service Receipt =>
        ((Service.execute c process asked.documentId asked.processor.id).run >>= next) s)
        (funext fun outcome => run_conclude c process q d asked outcome)

variable {c q d} {s t : Service} {asked : Request}

/-- The work on a request that calls a processor begins with the call. -/
theorem request_of_calling {processor : Processor π}
    (started : RequestConsumer.start c q d s = (.calling processor asked, t)) :
    t = s ∧ Work.request c q d =
      .doing (.call processor.duty asked.documentId) (finish c q d processor asked) := by
  obtain ⟨read, known, same⟩ := RequestConsumer.start_calls started
  refine ⟨same, ?_⟩
  rw [request_of_read read, execute, Procedure.execute, known]
  rfl

/-- The work on a request that calls no processor is done at its start. -/
theorem request_of_done {receipt : Receipt} (started : RequestConsumer.start c q d s = (.done receipt, t)) :
    (Work.request c q d).run (others c process) s = (receipt, t) := by
  have begun : (Procedure.start c q d : StateM Service (Handling π)) s = (.done receipt, t) := started
  rw [run_request, RequestConsumer.handle, Procedure.consumeRequest]
  simp only [bind, StateT.bind, begun]
  rfl

/-- Whether a condition holds of work that does nothing, of work that tells something, and of work if it holds of both
its parts. -/
structure Compositional (P : (α : Type) → Work π α → Prop) : Prop where
  done {α : Type} (a : α) : P α (pure a)
  tell (level : LogLevel) (message : String) (fields : List (String × String)) : P Unit (tell level message fields)
  bind {α β : Type} {work : Work π α} {next : α → Work π β} (first : P α work) (more : ∀ a, P β (next a)) :
    P β (work >>= next)

namespace Compositional

variable {P : (α : Type) → Work π α → Prop} (compositional : Compositional P)

include compositional

theorem told {α : Type} (level : LogLevel) (message : String) (fields : List (String × String)) (a : α) :
    P α (Work.tell level message fields >>= fun _ => pure a) :=
  compositional.bind (compositional.tell level message fields) fun _ => compositional.done a

theorem line {text : String}
    (serves : ∀ command, Command.read text = .ok command → P _ (ofTask (Task.serve c command))) :
    P _ (Work.line c text) := by
  unfold Work.line Procedure.answer
  cases read : Command.read text with
  | error fault => exact compositional.told ..
  | ok command =>
      refine compositional.bind (serves command read) fun outcome => ?_
      cases outcome with
      | ok reply => exact compositional.done reply
      | error failure => exact compositional.told ..

theorem initiate {documentId : Uuid} {processorIds : List String} {again : Bool}
    (filters : P _ (ofTask (Task.filter c documentId processorIds again)))
    (grants : ∀ left, P _ (look documentId >>= fun answer => ofTask (Task.grant c documentId left answer))) :
    P _ (Work.initiate c documentId processorIds again) := by
  rw [initiate_eq]
  refine compositional.bind filters fun chosen => ?_
  cases chosen with
  | error failure => exact compositional.done _
  | ok left =>
      by_cases none : left = []
      · subst none
        exact compositional.told ..
      · simp only [clear_of_ne_nil c documentId none]
        exact grants left

theorem handleEvent (initiates : ∀ documentId processorIds, P _ (Work.initiate c documentId processorIds false))
    (event : Event) : P _ (Procedure.handleEvent (Work.initiate c) event) := by
  refine compositional.bind (compositional.tell ..) fun _ => compositional.bind (initiates _ _) fun outcome => ?_
  cases outcome with
  | ok done => exact compositional.done _
  | error failure => exact compositional.told ..

theorem acknowledge (puts : ∀ delay limit, P _ (putOff .events d delay limit))
    (handled : Except EventFailure Unit) : P _ (Procedure.acknowledge q d handled) := by
  cases handled with
  | ok done => exact compositional.done _
  | error failure =>
      unfold Procedure.acknowledge
      dsimp only
      split
      · exact compositional.bind (compositional.tell ..) fun _ =>
          compositional.bind (puts _ _) fun _ => compositional.done _
      · exact compositional.done _

theorem event (initiates : ∀ documentId processorIds, P _ (Work.initiate c documentId processorIds false))
    (puts : ∀ delay limit, P _ (putOff .events d delay limit)) : P _ (Work.event c q d) := by
  unfold Work.event Procedure.consumeEvent
  split
  · exact compositional.told ..
  · exact compositional.bind (compositional.handleEvent initiates _) (compositional.acknowledge puts)

theorem conclude (puts : ∀ delay limit, P _ (putOff .requests d delay limit))
    (outcome : Except ProcessingFailure Row) : P _ (Work.conclude q d asked outcome) := by
  cases outcome with
  | ok row => exact compositional.told ..
  | error failure =>
      cases failure with
      | unretryable message => exact compositional.told ..
      | retryable message source =>
          exact compositional.bind (compositional.tell ..) fun _ =>
            compositional.bind (puts _ _) fun _ => compositional.done _

theorem request (executes : ∀ documentId processorId, P _ (execute c documentId processorId))
    (puts : ∀ delay limit, P _ (putOff .requests d delay limit)) : P _ (Work.request c q d) := by
  cases read : Request.read d.payload with
  | error fault =>
      rw [request_of_unread read]
      exact compositional.told ..
  | ok asked =>
      rw [request_of_read read]
      exact compositional.bind (executes _ _) (compositional.conclude puts)

end Compositional

end Work

end Dossier.Service
