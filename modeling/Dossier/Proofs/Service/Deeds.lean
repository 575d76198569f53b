import Dossier.Proofs.Service.Work

/-! # The deeds of operations

What initiations and executions do deed by deed: whatever comes in between, each deed is one of a few, and all of
them are for the document of the operation. So what holds of those few holds of all that operations do. Main
statements: `Task.for_initiate` and `Task.for_settle`.
-/

namespace Dossier.Service

variable {π ε ε' α β : Type}

/-- The deeds of operations for a document. Rows that are announced are `said` by processors, up to their
processor's name. -/
inductive Deed.For (c : Collaborators π) (said : Row → Prop) (documentId : Uuid) :
    ∀ β, Deed π β → Prop where
  | tell (level : LogLevel) (message : String) (fields : List (String × String)) :
      For c said documentId _ (.tell level message fields)
  | readClock : For c said documentId _ (.readClock c)
  | find : For c said documentId _ (.ask c (·.find documentId))
  | findFrom (processorIds : List String) :
      For c said documentId _ (.ask c (·.findFrom documentId processorIds))
  | request (processorId : String) :
      For c said documentId _ (.publish .requests (Request.text ⟨⟨processorId⟩, documentId⟩))
  | pending (processorId : String) (n : Nat) :
      For c said documentId _ (.save c (.pending documentId processorId (c.clock n)))
  | unprocessable (processorId error : String) (n : Nat) :
      For c said documentId _ (.save c (.unprocessable documentId processorId error (c.clock n)))
  | result {answer : Row} (answered : said answer) (processorId : String) :
      For c said documentId _ (.save c { answer with processorId })
  | announce {answer : Row} (answered : said answer) (processorId : String) :
      For c said documentId _ (.publish .completions ({ answer with processorId } : Row).text)

namespace Task

/-- Whether all deeds of a task satisfy a condition, whatever they give back. -/
def All (q : ∀ β, Deed π β → Prop) : Task π ε α → Prop
  | .done _ => True
  | .doing deed rest => q _ deed ∧ ∀ s, (rest (deed.perform s).1).All q

variable {q q' : ∀ β, Deed π β → Prop} {task : Task π ε α}

theorem All.mono (all : task.All q) (more : ∀ β deed, q β deed → q' β deed) : task.All q' := by
  induction task with
  | done outcome => trivial
  | doing deed rest ih => exact ⟨more _ deed all.1, fun s => ih _ (all.2 s)⟩

theorem All.bind {next : α → Task π ε β} (all : task.All q) (more : ∀ a, (next a).All q) :
    (task >>= next).All q := by
  induction task with
  | done outcome =>
      cases outcome with
      | ok a => exact more a
      | error failure => trivial
  | doing deed rest ih => exact ⟨all.1, fun s => ih _ (all.2 s)⟩

theorem All.explain (all : task.All q) (meaning : ε → ε') : (task.explain meaning).All q := by
  induction task with
  | done outcome => trivial
  | doing deed rest ih => exact ⟨all.1, fun s => ih _ (all.2 s)⟩

theorem all_pure (a : α) : (pure a : Task π ε α).All q := trivial

theorem all_fail (failure : ε) : (fail failure : Task π ε α).All q := trivial

theorem all_save {c : Collaborators π} {row : Row} (saves : q _ (.save c row)) : (save c row).All q :=
  ⟨saves, fun _ => trivial⟩

theorem all_ask {c : Collaborators π} {question : Store → Except DatabaseFailure α}
    (asks : q _ (.ask c question)) : (ask c question).All q :=
  ⟨asks, fun _ => trivial⟩

theorem all_publish {channel : Channel} {payload : String} (publishes : q _ (.publish channel payload)) :
    (publish channel payload).All q :=
  ⟨publishes, fun _ => trivial⟩

variable {c : Collaborators π} {said : Row → Prop} {documentId : Uuid}

theorem for_tell (level : LogLevel) (message : String) (fields : List (String × String)) :
    (tell level message fields : Task π ε Unit).All (Deed.For c said documentId) :=
  ⟨.tell level message fields, fun _ => trivial⟩

/-- What is made of the time goes on with a reading of the clock. -/
theorem for_readClock {next : Timestamp → Task π ε α}
    (more : ∀ n, (next (c.clock n)).All (Deed.For c said documentId)) :
    (readClock c >>= next).All (Deed.For c said documentId) :=
  ⟨.readClock, fun s => more s.readings⟩

theorem for_tellProcessed (existing : List Row) :
    (tellProcessed documentId existing : Task π ε Unit).All (Deed.For c said documentId) := by
  unfold tellProcessed Procedure.tellProcessed
  split
  · exact all_pure _
  · exact for_tell _ _ _

theorem for_filter (processorIds : List String) (again : Bool) :
    (filter c documentId processorIds again).All (Deed.For c said documentId) := by
  unfold filter Procedure.filter
  split
  · exact all_pure _
  · exact (all_ask (.findFrom processorIds)).bind fun existing =>
      (for_tellProcessed existing).bind fun _ => all_pure _

theorem for_request (processorId : String) :
    (request c documentId processorId).All (Deed.For c said documentId) :=
  ((all_publish (.request processorId)).explain _).bind fun _ => for_readClock fun n =>
    (all_save (.pending processorId n)).bind fun _ => for_tell _ _ _

theorem for_enqueue (processorIds : List String) :
    (enqueue c documentId processorIds).All (Deed.For c said documentId) := by
  induction processorIds with
  | nil => exact all_pure _
  | cons processorId rest ih => exact (for_request processorId).bind fun _ => ih

theorem for_grant (left : List String) (answer : Except ScanFailure ScanStatus) :
    (Task.grant c documentId left answer).All (Deed.For c said documentId) := by
  cases answer with
  | error failure => exact all_fail _
  | ok status =>
      cases status with
      | failedScan => exact (for_tell _ _ _).bind fun _ => all_fail _
      | ready | awaitingScan => exact (for_tell _ _ _).bind fun _ => for_enqueue left

theorem for_initiate (processorIds : List String) (again : Bool) :
    (initiate c documentId processorIds again).All (Deed.For c said documentId) := by
  refine (for_filter processorIds again).bind fun left => ?_
  unfold Procedure.clear
  split
  · exact for_tell _ _ _
  · exact for_grant left (c.scan documentId)

theorem for_recordUnprocessable (processorId error : String) :
    (recordUnprocessable c documentId processorId error).All (Deed.For c said documentId) :=
  for_readClock fun n => (all_save (.unprocessable processorId error n)).explain _

theorem for_refuse (processorId : String) :
    (refuse c documentId processorId).All (Deed.For c said documentId) :=
  (for_tell _ _ _).bind fun _ => (for_recordUnprocessable processorId _).bind fun _ => all_fail _

theorem for_settle (processorId : String) (processor : Processor π) {answer : Except ProcessorFailure Row}
    (answered : ∀ row, answer = .ok row → said row) :
    (settle c documentId processorId processor answer).All (Deed.For c said documentId) := by
  cases answer with
  | error failure => exact (for_tell _ _ _).bind fun _ => all_fail _
  | ok row =>
      have heard := answered row rfl
      simp only [settle, Procedure.settle]
      cases row.status with
      | complete =>
          exact ((all_save (.result heard processor.id)).explain _).bind fun _ =>
            ((all_publish (.announce heard processor.id)).explain _).bind fun _ =>
            (for_tell _ _ _).bind fun _ => all_pure _
      | unprocessable =>
          exact (for_tell _ _ _).bind fun _ =>
            (for_recordUnprocessable processorId _).bind fun _ => all_fail _
      | missingDependency => exact (for_tell _ _ _).bind fun _ => all_fail _
      | pending | other => exact all_fail _

end Task

end Dossier.Service
