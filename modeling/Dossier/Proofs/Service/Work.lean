import Dossier.Consumer.Redelivery
import Dossier.Proofs.Service.Gate
import Dossier.Proofs.Service.Task

/-! # Work that waits for others

Who works with a service does deeds, and in between asks others: for the scan of a document, or for what a
processor makes of it. Others may answer anything, and much can happen before they do. So work is a tree of acts
here, in which what an act gives back decides what is done next. Main statement: `run_initiate`, that the work of
an initiation is the initiation if nobody else comes in between.
-/

namespace Dossier.Service

variable {π ε α β : Type}

/-- What is done without a break, or asked of others. -/
inductive Act (π : Type) : Type → Type 1 where
  | deed {α : Type} (deed : Deed π α) : Act π α
  /-- Asks for the scan of a document. -/
  | look (documentId : Uuid) : Act π (Except ScanFailure ScanStatus)
  /-- Calls a processor for a document. -/
  | call (duty : π) (documentId : Uuid) : Act π (Except ProcessorFailure Row)
  | putOff (channel : Channel) (d : Delivery) (delay limit : Nat) : Act π Bool

/-- What those answer that are asked. -/
structure Others (π : Type) where
  scan : Uuid → Except ScanFailure ScanStatus
  process : π → Uuid → Except ProcessorFailure Row

/-- Those whom a service works with, and processors. -/
def others (c : Collaborators π) (process : π → Uuid → Except ProcessorFailure Row) :
    Others π :=
  ⟨c.scan, process⟩

/-- A question for the scan of a document, with the answer to it. -/
structure Lookup where
  documentId : Uuid
  answer : Except ScanFailure ScanStatus

namespace Act

def perform (o : Others π) : Act π α → StateM Service α
  | .deed single => single.perform
  | .look documentId => pure (o.scan documentId)
  | .call duty documentId => pure (o.process duty documentId)
  | .putOff channel d delay limit => Service.putOff channel d delay limit

/-- The question for a scan that an act is, if it is one. -/
def lookups : Act π α → α → List Lookup
  | .look documentId, answer => [⟨documentId, answer⟩]
  | .deed _, _ | .call _ _, _ | .putOff _ _ _ _, _ => []

end Act

/-- What is left to do of some work. -/
inductive Work (π α : Type) : Type 1 where
  | done (a : α)
  | doing {β : Type} (act : Act π β) (rest : β → Work π α)

namespace Work

protected def bind : Work π α → (α → Work π β) → Work π β
  | .done a, next => next a
  | .doing act rest, next => .doing act fun b => (rest b).bind next

instance : Monad (Work π) where
  pure := .done
  bind := Work.bind

/-- The work done without a break. -/
def run (o : Others π) : Work π α → StateM Service α
  | .done a => pure a
  | .doing act rest => fun s => (rest (act.perform o s).1).run o (act.perform o s).2

/-- The questions for scans, with the answers to them, when the work is done without a break. -/
def lookups (o : Others π) : Work π α → Service → List Lookup
  | .done _, _ => []
  | .doing act rest, s =>
      act.lookups (act.perform o s).1 ++ (rest (act.perform o s).1).lookups o (act.perform o s).2

/-- The work of a task. -/
def ofTask : Task π ε α → Work π (Except ε α)
  | .done outcome => .done outcome
  | .doing deed rest => .doing (.deed deed) fun b => ofTask (rest b)

def tell (level : LogLevel) (message : String) (fields : List (String × String)) : Work π Unit :=
  .doing (.deed (.tell level message fields)) .done

def look (documentId : Uuid) : Work π (Except ScanFailure ScanStatus) :=
  .doing (.look documentId) .done

def call (duty : π) (documentId : Uuid) : Work π (Except ProcessorFailure Row) :=
  .doing (.call duty documentId) .done

def putOff (channel : Channel) (d : Delivery) (delay limit : Nat) : Work π Bool :=
  .doing (.putOff channel d delay limit) .done

variable (o : Others π)

theorem run_bind (work : Work π α) (next : α → Work π β) :
    (work >>= next).run o = work.run o >>= fun a => (next a).run o := by
  induction work with
  | done a => rfl
  | doing act rest ih =>
      funext s
      exact congrFun (ih (act.perform o s).1) (act.perform o s).2

theorem run_ofTask (task : Task π ε α) : (ofTask task).run o = task.run := by
  induction task with
  | done outcome => rfl
  | doing deed rest ih =>
      funext s
      exact congrFun (ih (deed.perform s).1) (deed.perform s).2

theorem lookups_bind (work : Work π α) (next : α → Work π β) (s : Service) :
    (work >>= next).lookups o s =
      work.lookups o s ++ (next (work.run o s).1).lookups o (work.run o s).2 := by
  induction work generalizing s with
  | done a => rfl
  | doing act rest ih =>
      have more := ih (act.perform o s).1 (act.perform o s).2
      have first : (doing act rest >>= next).lookups o s = act.lookups (act.perform o s).1 ++
        (rest (act.perform o s).1 >>= next).lookups o (act.perform o s).2 := rfl
      rw [first, more, ← List.append_assoc]
      rfl

theorem lookups_ofTask (task : Task π ε α) (s : Service) : (ofTask task).lookups o s = [] := by
  induction task generalizing s with
  | done outcome => rfl
  | doing deed rest ih => exact ih _ _

theorem run_tell (level : LogLevel) (message : String) (fields : List (String × String)) :
    (tell level message fields).run o = Service.tell level message fields := rfl

theorem run_look (documentId : Uuid) : (look documentId).run o = pure (o.scan documentId) := rfl

end Work

/-- Work that may fail. -/
abbrev Venture (π ε : Type) := ExceptT ε (Work π)

instance : Waits π (Task π) (Venture π) where
  whole := Work.ofTask
  look _ documentId := ExceptT.lift (Work.look documentId)

namespace Work

def clear (c : Collaborators π) (documentId : Uuid) (left : List String) :
    Work π (Except ServiceFailure Unit) :=
  (Procedure.clear (Task π) c documentId left : Venture π ServiceFailure Unit).run

/-- An initiation of which nothing is done yet. -/
def initiate (c : Collaborators π) (documentId : Uuid) (processorIds : List String) (again : Bool) :
    Work π (Except ServiceFailure Unit) :=
  (Procedure.initiate (Task π) c documentId processorIds again : Venture π ServiceFailure Unit).run

variable (c : Collaborators π) (process : π → Uuid → Except ProcessorFailure Row) (documentId : Uuid)

/-- Where processors are left the scan is asked for. -/
theorem clear_of_ne_nil {left : List String} (some : left ≠ []) :
    clear c documentId left =
      look documentId >>= fun answer => ofTask (Task.grant c documentId left answer) := by
  cases left with
  | nil => contradiction
  | cons processorId rest => rfl

/-- The work of an initiation whose processors are chosen goes on by what the choice came to. -/
theorem initiate_eq (processorIds : List String) (again : Bool) :
    initiate c documentId processorIds again =
      ofTask (Task.filter c documentId processorIds again) >>= fun chosen => match chosen with
        | .error failure => pure (.error failure)
        | .ok left => clear c documentId left := by
  have whole : initiate c documentId processorIds again =
      ofTask (Task.filter c documentId processorIds again) >>= ExceptT.bindCont (clear c documentId) := rfl
  rw [whole]
  congr 1
  funext chosen
  cases chosen with
  | error failure => rfl
  | ok left => rfl

theorem run_clear (left : List String) :
    (clear c documentId left).run (others c process) = (Service.clear c documentId left).run := by
  by_cases none : left = []
  · subst none
    rfl
  · rw [clear_of_ne_nil c documentId none, Service.clear_of_ne_nil c documentId none, run_bind, run_look,
      pure_bind, run_ofTask, Task.run_grant]
    rfl

/-- The work of an initiation is the initiation, if nobody else comes in between. -/
theorem run_initiate (processorIds : List String) (again : Bool) :
    (initiate c documentId processorIds again).run (others c process) =
      (Service.initiate c documentId processorIds again).run := by
  rw [Service.initiate_eq, initiate_eq, run_bind, run_ofTask, Task.run_filter]
  funext s
  rcases filtered : Service.filter c documentId processorIds again s with ⟨failure | left, t⟩
  · rw [ExceptT.run, bind_error filtered]
    simp only [bind, StateT.bind, filtered]
    rfl
  · rw [ExceptT.run, bind_ok filtered]
    simp only [bind, StateT.bind, filtered]
    exact congrFun (run_clear c process documentId left) t

/-- The scan is asked for once if processors are left, and otherwise not at all. -/
theorem lookups_initiate (o : Others π) (processorIds : List String) (again : Bool) (s : Service) :
    (initiate c documentId processorIds again).lookups o s =
      match (Service.filter c documentId processorIds again s).1 with
      | .ok (_ :: _) => [⟨documentId, o.scan documentId⟩]
      | .ok [] | .error _ => [] := by
  rw [initiate_eq, lookups_bind, lookups_ofTask, run_ofTask, Task.run_filter, List.nil_append]
  rcases filtered : Service.filter c documentId processorIds again s with ⟨failure | left, t⟩
  · rfl
  · cases left with
    | nil => rfl
    | cons processorId rest =>
        simp only [clear_of_ne_nil c documentId (List.cons_ne_nil processorId rest), lookups_bind, lookups_ofTask]
        rfl

end Work

end Dossier.Service
