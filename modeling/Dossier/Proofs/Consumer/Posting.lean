import Dossier.Proofs.Consumer.Work

/-! # What work posts

The work of a component posts a request only for a document that it has asked the scan of, and whose scan let it
pass. Neither the work on a line nor that on a request posts any. Main statements: `Work.keeps_line`,
`Work.keeps_event` and `Work.keeps_request`.
-/

namespace Dossier.Service

variable {π ε ε' α β : Type} {p p' : Uuid → Prop}

/-- Whether a deed posts no message on the topic of requests but a request for a document of some. -/
def Deed.Keeps (p : Uuid → Prop) : Deed π α → Prop
  | .publish .requests payload =>
      ∃ documentId processorId, p documentId ∧ payload = Request.text ⟨⟨processorId⟩, documentId⟩
  | .publish .completions _ | .publish .events _ => True
  | .tell _ _ _ | .readClock _ | .save _ _ | .ask _ _ => True

namespace Task

/-- Whether a task posts requests for some documents only, whatever its deeds give back. -/
def Keeps (p : Uuid → Prop) : Task π ε α → Prop
  | .done _ => True
  | .doing deed rest => deed.Keeps p ∧ ∀ b, (rest b).Keeps p

variable {task : Task π ε α}

theorem Keeps.bind {next : α → Task π ε β} (keeps : task.Keeps p) (more : ∀ a, (next a).Keeps p) :
    (task >>= next).Keeps p := by
  induction task with
  | done outcome =>
      cases outcome with
      | ok a => exact more a
      | error failure => trivial
  | doing deed rest ih => exact ⟨keeps.1, fun b => ih b (keeps.2 b)⟩

theorem Keeps.explain (keeps : task.Keeps p) (meaning : ε → ε') : (task.explain meaning).Keeps p := by
  induction task with
  | done outcome => trivial
  | doing deed rest ih => exact ⟨keeps.1, fun b => ih b (keeps.2 b)⟩

theorem keeps_pure (a : α) : (pure a : Task π ε α).Keeps p := trivial

theorem keeps_fail (failure : ε) : (fail failure : Task π ε α).Keeps p := trivial

theorem keeps_tell (level : LogLevel) (message : String) (fields : List (String × String)) :
    (tell level message fields : Task π ε Unit).Keeps p := ⟨trivial, fun _ => trivial⟩

theorem keeps_readClock (c : Collaborators π) : (readClock c : Task π ε Timestamp).Keeps p :=
  ⟨trivial, fun _ => trivial⟩

theorem keeps_save (c : Collaborators π) (row : Row) : (save c row).Keeps p :=
  ⟨trivial, fun _ => trivial⟩

theorem keeps_ask (c : Collaborators π) (question : Store → Except DatabaseFailure α) :
    (ask c question).Keeps p :=
  ⟨trivial, fun _ => trivial⟩

variable (c : Collaborators π) (documentId : Uuid)

theorem keeps_tellProcessed (existing : List Row) :
    (tellProcessed documentId existing : Task π ε Unit).Keeps p := by
  unfold tellProcessed Procedure.tellProcessed
  split
  · exact keeps_pure _
  · exact keeps_tell _ _ _

theorem keeps_filter (processorIds : List String) (again : Bool) :
    (filter c documentId processorIds again).Keeps p := by
  unfold filter Procedure.filter
  split
  · exact keeps_pure _
  · exact (keeps_ask c _).bind fun existing =>
      (keeps_tellProcessed documentId existing).bind fun _ => keeps_pure _

theorem keeps_request (cleared : p documentId) (processorId : String) :
    (request c documentId processorId).Keeps p := by
  have posts : (publish .requests (Request.text ⟨⟨processorId⟩, documentId⟩) :
      Task π Channel Unit).Keeps p :=
    ⟨⟨documentId, processorId, cleared, rfl⟩, fun _ => trivial⟩
  exact (posts.explain _).bind fun _ => (keeps_readClock c).bind fun _ =>
    (keeps_save c _).bind fun _ => keeps_tell _ _ _

theorem keeps_enqueue (cleared : p documentId) (processorIds : List String) :
    (enqueue c documentId processorIds).Keeps p := by
  induction processorIds with
  | nil => exact keeps_pure _
  | cons processorId rest ih => exact (keeps_request c documentId cleared processorId).bind fun _ => ih

theorem keeps_grant {answer : Except ScanFailure ScanStatus} (cleared : Clears answer → p documentId)
    (left : List String) : (Task.grant c documentId left answer).Keeps p := by
  cases answer with
  | error failure => exact keeps_fail _
  | ok status =>
      cases status with
      | failedScan => exact (keeps_tell _ _ _).bind fun _ => keeps_fail _
      | ready | awaitingScan =>
          have passes := cleared ⟨_, rfl, by decide⟩
          exact (keeps_tell _ _ _).bind fun _ => keeps_enqueue c documentId passes left

theorem keeps_recordUnprocessable (processorId error : String) :
    (recordUnprocessable c documentId processorId error).Keeps p :=
  (keeps_readClock c).bind fun _ => (keeps_save c _).explain _

theorem keeps_refuse (processorId : String) : (refuse c documentId processorId).Keeps p :=
  (keeps_tell _ _ _).bind fun _ =>
    (keeps_recordUnprocessable c documentId processorId _).bind fun _ => keeps_fail _

/-- An execution posts no requests at all. -/
theorem keeps_settle (processorId : String) (processor : Processor π)
    (answer : Except ProcessorFailure Row) :
    (settle c documentId processorId processor answer).Keeps p := by
  cases answer with
  | error failure => exact (keeps_tell _ _ _).bind fun _ => keeps_fail _
  | ok row =>
      simp only [settle, Procedure.settle]
      cases row.status with
      | complete =>
          have announces (payload : String) :
              (publish .completions payload : Task π Channel Unit).Keeps p := ⟨trivial, fun _ => trivial⟩
          exact ((keeps_save c _).explain _).bind fun _ => ((announces _).explain _).bind fun _ =>
            (keeps_tell _ _ _).bind fun _ => keeps_pure _
      | unprocessable =>
          exact (keeps_tell _ _ _).bind fun _ =>
            (keeps_recordUnprocessable c documentId processorId _).bind fun _ => keeps_fail _
      | missingDependency => exact (keeps_tell _ _ _).bind fun _ => keeps_fail _
      | pending | other => exact keeps_fail _

/-- Nor does a command. -/
theorem keeps_serve (command : Command) : (serve c command).Keeps p := by
  cases command with
  | initiate event =>
      have announces : (publish .events event.text : Task π Channel Unit).Keeps p :=
        ⟨trivial, fun _ => trivial⟩
      exact (announces.explain _).bind fun _ => (keeps_tell _ _ _).bind fun _ => keeps_pure _
  | results documentId processors =>
      cases processors with
      | none => exact ((keeps_ask c _).bind fun _ => keeps_pure _).bind fun _ => keeps_pure _
      | some processors => exact (keeps_ask c _).bind fun _ => keeps_pure _
  | record row => exact (keeps_save c row).bind fun _ => keeps_pure _

end Task

/-- Whether an act posts nothing but requests for some documents, and puts off only what was sent before. -/
def Act.Keeps (p : Uuid → Prop) : Act π α → Prop
  | .deed single => single.Keeps p
  | .putOff _ d _ _ => 1 ≤ d.attempt
  | .look _ | .call _ _ => True

/-- Whether one of some lookups lets a document pass. -/
def ClearedBy (lookups : List Lookup) (documentId : Uuid) : Prop :=
  ∃ answer, ⟨documentId, answer⟩ ∈ lookups ∧ Clears answer

theorem Deed.Keeps.mono {deed : Deed π α} (more : ∀ documentId, p documentId → p' documentId)
    (keeps : deed.Keeps p) : deed.Keeps p' := by
  cases deed with
  | tell | readClock | save | ask => trivial
  | publish channel payload =>
      cases channel with
      | requests =>
          obtain ⟨documentId, processorId, allowed, same⟩ := keeps
          exact ⟨documentId, processorId, more documentId allowed, same⟩
      | completions | events => trivial

theorem Act.Keeps.mono {act : Act π α} (more : ∀ documentId, p documentId → p' documentId)
    (keeps : act.Keeps p) : act.Keeps p' := by
  cases act with
  | deed single => exact Deed.Keeps.mono more keeps
  | look | call => trivial
  | putOff => exact keeps

namespace Work

/-- Whether work posts requests only for some documents, and for those that its own lookups let pass on its way,
whatever its acts give back. -/
def Keeps : (Uuid → Prop) → Work π α → Prop
  | _, .done _ => True
  | p, .doing act rest =>
      act.Keeps p ∧ ∀ b, (rest b).Keeps fun documentId =>
        p documentId ∨ ClearedBy (act.lookups b) documentId

variable {work : Work π α}

theorem Keeps.mono (keeps : work.Keeps p) (more : ∀ documentId, p documentId → p' documentId) :
    work.Keeps p' := by
  induction work generalizing p p' with
  | done a => trivial
  | doing act rest ih =>
      exact ⟨Act.Keeps.mono more keeps.1, fun b =>
        ih b (keeps.2 b) fun documentId => Or.imp_left (more documentId)⟩

theorem Keeps.bind {next : α → Work π β} (keeps : work.Keeps p) (further : ∀ a, (next a).Keeps p) :
    (work >>= next).Keeps p := by
  -- what follows keeps to the first documents, and so to those with what was looked up on the way
  induction work generalizing p with
  | done a => exact further a
  | doing act rest ih =>
      exact ⟨keeps.1, fun b => ih b (keeps.2 b) fun a => (further a).mono fun _ => Or.inl⟩

theorem keeps_ofTask {task : Task π ε α} (keeps : task.Keeps p) : (ofTask task).Keeps p := by
  induction task with
  | done outcome => trivial
  | doing deed rest ih => exact ⟨keeps.1, fun b => (ih b (keeps.2 b)).mono fun _ => Or.inl⟩

theorem keeps_tell (level : LogLevel) (message : String) (fields : List (String × String)) :
    (tell level message fields : Work π Unit).Keeps p := ⟨trivial, fun _ => trivial⟩

theorem keeps_putOff {d : Delivery} (sent : 1 ≤ d.attempt) (channel : Channel) (delay limit : Nat) :
    (putOff channel d delay limit : Work π Bool).Keeps p := ⟨sent, fun _ => trivial⟩

theorem compositional_keeps : Compositional (π := π) fun _ work => work.Keeps p :=
  ⟨fun _ => trivial, keeps_tell, Keeps.bind⟩

variable (c : Collaborators π) (documentId : Uuid)

/-- An initiation posts requests only if the answer for the scan lets the document pass. -/
theorem keeps_initiate (processorIds : List String) (again : Bool) :
    (initiate c documentId processorIds again).Keeps p := by
  refine compositional_keeps.initiate (keeps_ofTask (Task.keeps_filter c documentId processorIds again)) fun left =>
    ⟨trivial, fun answer => keeps_ofTask (Task.keeps_grant c documentId ?_ left)⟩
  exact fun clears => .inr ⟨answer, List.mem_singleton_self _, clears⟩

theorem keeps_execute (processorId : String) : (execute c documentId processorId).Keeps p := by
  unfold execute Procedure.execute
  split
  · exact keeps_ofTask (Task.keeps_refuse c documentId processorId)
  · exact ⟨trivial, fun answer => keeps_ofTask (Task.keeps_settle c documentId processorId _ answer)⟩

variable (q : QueueSettings) {d : Delivery}

theorem keeps_line (text : String) : (line c text).Keeps p :=
  compositional_keeps.line fun command _ => keeps_ofTask (Task.keeps_serve c command)

theorem keeps_event (sent : 1 ≤ d.attempt) : (event c q d).Keeps p :=
  compositional_keeps.event (fun documentId processorIds => keeps_initiate c documentId processorIds false)
    (keeps_putOff sent .events)

theorem keeps_request (sent : 1 ≤ d.attempt) : (request c q d).Keeps p :=
  compositional_keeps.request (keeps_execute c) (keeps_putOff sent .requests)

end Work

end Dossier.Service
