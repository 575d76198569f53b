import Dossier.Proofs.Service.Execution
import Dossier.Proofs.Service.Requesting

/-! # Operations as tasks

Operations of a service may take turns: between two calls of its collaborators an operation waits, and others
go on. So an operation is a task here, a tree of single deeds in which what a deed gives back decides what is
done next. Its steps are those of the same procedure as the operation's, and a task that is carried out without a
break is the operation. Main statements: `run_initiate` and `exists_task_execute`.
-/

namespace Dossier.Service

variable {π ε ε' α β γ : Type}

/-- What is done without a break. -/
inductive Deed (π : Type) : Type → Type 1 where
  | tell (level : LogLevel) (message : String) (fields : List (String × String)) : Deed π Unit
  | readClock (c : Collaborators π) : Deed π Timestamp
  | save (c : Collaborators π) (row : Row) : Deed π (Except ServiceFailure Unit)
  | ask {α : Type} (c : Collaborators π) (question : Store → Except DatabaseFailure α) :
      Deed π (Except ServiceFailure α)
  | publish (channel : Channel) (payload : String) : Deed π (Except Channel Unit)

namespace Deed

def perform : Deed π α → StateM Service α
  | .tell level message fields => Service.tell level message fields
  | .readClock c => Service.readClock c
  | .save c row => (Service.save c row).run
  | .ask c question => (Service.ask c question).run
  | .publish channel payload => (Service.publish channel payload).run

/-- A deed adds something to the service and takes nothing away. -/
theorem leads (deed : Deed π α) (s : Service) :
    ∃ effect : Effect, effect.Leads s (deed.perform s).2 := by
  cases deed with
  | tell level message fields => exact ⟨_, leads_log _⟩
  | readClock c => exact ⟨_, leads_readings⟩
  | save c row =>
      rcases save_cases c row s with ⟨-, t, saved, leads, -⟩ | ⟨-, failure, t, failed, leads⟩
      · exact ⟨_, by rw [perform, ExceptT.run, saved]; exact leads⟩
      · exact ⟨_, by rw [perform, ExceptT.run, failed]; exact leads⟩
  | ask c question =>
      obtain ⟨outcome, asked⟩ := ask_cases c question s
      exact ⟨.nothing, by rw [perform, ExceptT.run, asked]; exact { Effect.Leads.refl s with }⟩
  | publish channel payload =>
      rcases publish_cases channel payload s with ⟨-, t, sent, leads⟩ | ⟨-, failed⟩
      · exact ⟨_, by rw [perform, ExceptT.run, sent]; exact leads⟩
      · exact ⟨_, by rw [perform, ExceptT.run, failed]; exact .refl s⟩

/-- A deed only adds rows to a store in memory. -/
theorem grows (deed : Deed π α) {s : Service} {rows : List Row} (held : s.store = .memory rows) :
    ∃ more, (deed.perform s).2.store = .memory (rows ++ more) := by
  obtain ⟨effect, leads⟩ := deed.leads s
  have saved := leads.store
  rw [held, Store.saveAll_memory] at saved
  exact ⟨effect.rows, (Except.ok.inj saved).symm⟩

end Deed

/-- What is left to do of an operation. -/
inductive Task (π ε α : Type) : Type 1 where
  | done (outcome : Except ε α)
  | doing {β : Type} (deed : Deed π β) (rest : β → Task π ε α)

namespace Task

protected def bind : Task π ε α → (α → Task π ε β) → Task π ε β
  | .done (.ok a), next => next a
  | .done (.error failure), _ => .done (.error failure)
  | .doing deed rest, next => .doing deed fun b => (rest b).bind next

instance : Monad (Task π ε) where
  pure a := .done (.ok a)
  bind := Task.bind

/-- The task, with another meaning of its failure. -/
def explain (meaning : ε → ε') : Task π ε α → Task π ε' α
  | .done outcome => .done (outcome.mapError meaning)
  | .doing deed rest => .doing deed fun b => (rest b).explain meaning

/-- The task carried out without a break. -/
def run : Task π ε α → Attempt ε α
  | .done outcome => fun s => (outcome, s)
  | .doing deed rest => fun s => (rest (deed.perform s).1).run (deed.perform s).2

/-- The next deed of a task, if one is left. -/
def proceed : Task π ε α → Service → Task π ε α × Service
  | .done outcome, s => (.done outcome, s)
  | .doing deed rest, s => (rest (deed.perform s).1, (deed.perform s).2)

def fail (failure : ε) : Task π ε α := .done (.error failure)

def tell (level : LogLevel) (message : String) (fields : List (String × String)) : Task π ε Unit :=
  .doing (.tell level message fields) fun _ => .done (.ok ())

def readClock (c : Collaborators π) : Task π ε Timestamp :=
  .doing (.readClock c) fun now => .done (.ok now)

def save (c : Collaborators π) (row : Row) : Task π ServiceFailure Unit :=
  .doing (.save c row) .done

def ask (c : Collaborators π) (question : Store → Except DatabaseFailure α) :
    Task π ServiceFailure α :=
  .doing (.ask c question) .done

def publish (channel : Channel) (payload : String) : Task π Channel Unit :=
  .doing (.publish channel payload) .done

instance : Steps (Task π) where
  fail := Task.fail
  explain := Task.explain
  tell := Task.tell
  publish := Task.publish

instance : Dealings π (Task π) where
  readClock := Task.readClock
  save := Task.save
  ask := Task.ask

instance : Waits π (Task π) (Task π) where
  whole task := task
  look c documentId := pure (c.scan documentId)

@[simp]
theorem run_bind (task : Task π ε α) (next : α → Task π ε β) :
    (task >>= next).run = task.run >>= fun a => (next a).run := by
  induction task with
  | done outcome =>
      cases outcome with
      | ok a => rfl
      | error failure => rfl
  | doing deed rest ih =>
      funext s
      exact congrFun (ih (deed.perform s).1) (deed.perform s).2

@[simp]
theorem run_pure (a : α) : (pure a : Task π ε α).run = pure a := rfl

@[simp]
theorem run_explain (meaning : ε → ε') (task : Task π ε α) :
    (Steps.explain meaning task).run = Steps.explain meaning task.run := by
  induction task with
  | done outcome => rfl
  | doing deed rest ih =>
      funext s
      exact congrFun (ih (deed.perform s).1) (deed.perform s).2

@[simp]
theorem run_fail (failure : ε) : (Steps.fail failure : Task π ε α).run = Steps.fail failure := rfl

@[simp]
theorem run_tell (level : LogLevel) (message : String) (fields : List (String × String)) :
    (Steps.tell level message fields : Task π ε Unit).run = Steps.tell level message fields := rfl

@[simp]
theorem run_publish (channel : Channel) (payload : String) :
    (Steps.publish channel payload : Task π Channel Unit).run = Steps.publish channel payload := rfl

@[simp]
theorem run_readClock (c : Collaborators π) :
    (Dealings.readClock c : Task π ε Timestamp).run = Dealings.readClock c := rfl

@[simp]
theorem run_save (c : Collaborators π) (row : Row) :
    (Dealings.save c row : Task π ServiceFailure Unit).run = Dealings.save c row := rfl

@[simp]
theorem run_ask (c : Collaborators π) (question : Store → Except DatabaseFailure α) :
    (Dealings.ask c question : Task π ServiceFailure α).run = Dealings.ask c question := rfl

def tellProcessed (documentId : Uuid) (existing : List Row) : Task π ε Unit :=
  Procedure.tellProcessed documentId existing

def filter (c : Collaborators π) (documentId : Uuid) (processorIds : List String) (again : Bool) :
    Task π ServiceFailure (List String) :=
  Procedure.filter c documentId processorIds again

def request (c : Collaborators π) (documentId : Uuid) (processorId : String) : Task π ServiceFailure Unit :=
  Procedure.request c documentId processorId

def enqueue (c : Collaborators π) (documentId : Uuid) (processorIds : List String) :
    Task π ServiceFailure Unit :=
  Procedure.enqueue c documentId processorIds

def grant (c : Collaborators π) (documentId : Uuid) (left : List String)
    (answer : Except ScanFailure ScanStatus) : Task π ServiceFailure Unit :=
  Procedure.grant c documentId left answer

/-- An initiation of which nothing is done yet. -/
def initiate (c : Collaborators π) (documentId : Uuid) (processorIds : List String) (again : Bool) :
    Task π ServiceFailure Unit :=
  Procedure.initiate (Task π) c documentId processorIds again

def recordUnprocessable (c : Collaborators π) (documentId : Uuid) (processorId error : String) :
    Task π ProcessingFailure Unit :=
  Procedure.recordUnprocessable c documentId processorId error

def refuse (c : Collaborators π) (documentId : Uuid) (processorId : String) : Task π ProcessingFailure Row :=
  Procedure.refuse c documentId processorId

/-- What is left to do once a processor has answered. -/
def settle (c : Collaborators π) (documentId : Uuid) (processorId : String) (processor : Processor π)
    (answer : Except ProcessorFailure Row) : Task π ProcessingFailure Row :=
  Procedure.settle c documentId processorId processor answer

variable (c : Collaborators π) (documentId : Uuid)

@[simp]
theorem run_tellProcessed (existing : List Row) :
    (Procedure.tellProcessed documentId existing : Task π ε Unit).run =
      Procedure.tellProcessed documentId existing := by
  unfold Procedure.tellProcessed
  split
  · rfl
  · rfl

theorem run_filter (processorIds : List String) (again : Bool) :
    (filter c documentId processorIds again).run =
      Service.filter c documentId processorIds again := by
  cases again with
  | true => rfl
  | false => simp [filter, Service.filter, Procedure.filter]

@[simp]
theorem run_request (processorId : String) :
    (Procedure.request c documentId processorId : Task π _ _).run =
      Procedure.request c documentId processorId := by
  simp [Procedure.request]

@[simp]
theorem run_enqueue (processorIds : List String) :
    (Procedure.enqueue c documentId processorIds : Task π _ _).run =
      Procedure.enqueue c documentId processorIds := by
  induction processorIds with
  | nil => rfl
  | cons processorId rest ih => simp [Procedure.enqueue, ih]

theorem run_grant (left : List String) (answer : Except ScanFailure ScanStatus) :
    (grant c documentId left answer).run = Service.grant c documentId left answer := by
  cases answer with
  | error failure => rfl
  | ok status =>
      cases status with
      | failedScan => rfl
      | ready | awaitingScan => simp [grant, Service.grant, Procedure.grant]

/-- The task of an initiation is the initiation. -/
theorem run_initiate (processorIds : List String) (again : Bool) :
    (initiate c documentId processorIds again).run =
      Service.initiate c documentId processorIds again := by
  have whole : initiate c documentId processorIds again =
      filter c documentId processorIds again >>= Procedure.clear (Task π) c documentId := rfl
  rw [whole, run_bind, run_filter, initiate_eq]
  congr 1
  funext left
  unfold clear Procedure.clear
  split
  · rfl
  · exact run_grant c documentId left (c.scan documentId)

variable (processorId : String)

@[simp]
theorem run_recordUnprocessable (error : String) :
    (Procedure.recordUnprocessable c documentId processorId error : Task π _ _).run =
      Procedure.recordUnprocessable c documentId processorId error := by
  simp [Procedure.recordUnprocessable]

theorem run_refuse :
    (refuse c documentId processorId).run = Service.refuse c documentId processorId := by
  simp [refuse, Service.refuse, Procedure.refuse]

theorem run_settle (processor : Processor π) (answer : Except ProcessorFailure Row) :
    (settle c documentId processorId processor answer).run =
      Service.settle c documentId processorId processor answer := by
  cases answer with
  | error failure => rfl
  | ok row =>
      simp only [settle, Service.settle, Procedure.settle]
      cases row.status with
      | complete => simp [Procedure.complete]
      | unprocessable => simp [Procedure.giveUp]
      | missingDependency | pending | other => rfl

/-- An execution is made of deeds. -/
theorem exists_task_execute (answer : π → Uuid → Except ProcessorFailure Row) (processorId : String) :
    ∃ task : Task π ProcessingFailure Row, task.run = execute c answer documentId processorId := by
  rw [execute_eq]
  cases c.registry.find? processorId with
  | none => exact ⟨_, run_refuse c documentId processorId⟩
  | some processor => exact ⟨_, run_settle c documentId processorId processor _⟩

end Task

end Dossier.Service
