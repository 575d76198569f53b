import Dossier.Proofs.Consumer.Work
import Dossier.Proofs.Message.Record
import Dossier.Proofs.Service.Announcement
import Dossier.Proofs.Service.Deeds
import Mathlib.Logic.Relation

/-! # Where rows come from

Lines, events, requests, initiations and executions are at work, any number of them at once. Their acts take turns in
any order, while processors answer anything over HTTP. Each row of a store in memory was then recorded by a line,
answered by a processor or made by the service itself, and so is regular. Main statements: `Sourced.step` and
`regular_of_reached`.
-/

namespace Dossier.Service

open Relation (ReflTransGen)

variable {π ε α β : Type} {c : Collaborators Endpoint} {q : QueueSettings} {row : Row}

/-- The ways in which rows come to be. -/
inductive Origin (c : Collaborators Endpoint) : Row → Prop where
  | recorded {text : String} {row : Row} (read : Command.read text = .ok (.record row)) : Origin c row
  | answered {e : Endpoint} {documentId : Uuid} {exchange : Http.Exchange} {answer : Row}
      (said : e.answer documentId exchange = .ok answer) (processorId : String) :
      Origin c { answer with processorId }
  | pending (documentId : Uuid) (processorId : String) (n : Nat) :
      Origin c (.pending documentId processorId (c.clock n))
  | unprocessable (documentId : Uuid) (processorId error : String) (n : Nat) :
      Origin c (.unprocessable documentId processorId error (c.clock n))

theorem Origin.regular (origin : Origin c row) : row.Regular := by
  cases origin with
  | recorded read => exact Command.regular_of_record read
  | answered said processorId =>
      obtain ⟨text, read⟩ := Endpoint.answer_reads said
      have regular := Row.regular_of_read read
      exact { regular with }
  | pending => exact Row.regular_pending ..
  | unprocessable => exact Row.regular_unprocessable ..

/-- Whether a row that a deed saves satisfies a condition. -/
def Deed.Saves (fit : Row → Prop) : Deed π α → Prop
  | .save _ row => fit row
  | .tell _ _ _ | .readClock _ | .ask _ _ | .publish _ _ => True

theorem Deed.For.saves {said : Row → Prop} {documentId : Uuid}
    (heard : ∀ answer, said answer → ∃ (e : Endpoint) (exchange : Http.Exchange),
      e.answer documentId exchange = .ok answer)
    (deed : Deed Endpoint α) (own : Deed.For c said documentId α deed) : deed.Saves (Origin c) := by
  cases own with
  | tell | readClock | find | findFrom | request | announce => trivial
  | pending processorId n => exact .pending documentId processorId n
  | unprocessable processorId error n => exact .unprocessable documentId processorId error n
  | @result answer answered processorId =>
      obtain ⟨e, exchange, said⟩ := heard answer answered
      exact .answered said processorId

theorem Task.saves_serve {text : String} {command : Command} (read : Command.read text = .ok command) :
    (serve c command).All fun _ deed => deed.Saves (Origin c) := by
  cases command with
  | initiate event =>
      have tells (level : LogLevel) (message : String) (fields : List (String × String)) :
          (tell level message fields : Task Endpoint ServiceFailure Unit).All
            fun _ deed => deed.Saves (Origin c) := ⟨trivial, fun _ => trivial⟩
      exact ((all_publish trivial).explain _).bind fun _ => (tells _ _ _).bind fun _ => all_pure _
  | results documentId processors =>
      cases processors with
      | none =>
          have asks : (ask c (·.find documentId)).All fun _ deed => deed.Saves (Origin c) := all_ask trivial
          exact (asks.bind fun _ => all_pure _).bind fun _ => all_pure _
      | some processors => exact (all_ask trivial).bind fun _ => all_pure _
  | record row => exact (all_save (.recorded read)).bind fun _ => all_pure _

/-- Those who are asked, if processors answer over HTTP. -/
def Others.overHttp (scan : Uuid → Except ScanFailure ScanStatus)
    (exchange : Endpoint → Uuid → Http.Exchange) : Others Endpoint :=
  ⟨scan, fun e documentId => e.answer documentId (exchange e documentId)⟩

def Act.Saves (fit : Row → Prop) : Act π α → Prop
  | .deed single => single.Saves fit
  | .look _ | .call _ _ | .putOff _ _ _ _ => True

namespace Work

/-- Whether all rows that work saves satisfy a condition, whatever is answered over HTTP. -/
def Saves (fit : Row → Prop) : Work Endpoint α → Prop
  | .done _ => True
  | .doing act rest => act.Saves fit ∧
      ∀ scan exchange s, (rest (act.perform (.overHttp scan exchange) s).1).Saves fit

variable {fit : Row → Prop} {work : Work Endpoint α}

theorem Saves.bind {next : α → Work Endpoint β} (saves : work.Saves fit) (more : ∀ a, (next a).Saves fit) :
    (work >>= next).Saves fit := by
  induction work with
  | done a => exact more a
  | doing act rest ih => exact ⟨saves.1, fun scan exchange s => ih _ (saves.2 scan exchange s)⟩

theorem saves_pure (a : α) : (pure a : Work Endpoint α).Saves fit := trivial

theorem saves_ofTask {task : Task Endpoint ε α} (all : task.All fun _ deed => deed.Saves fit) :
    (ofTask task).Saves fit := by
  induction task with
  | done outcome => trivial
  | doing deed rest ih => exact ⟨all.1, fun scan exchange s => ih _ (all.2 s)⟩

theorem saves_tell (level : LogLevel) (message : String) (fields : List (String × String)) :
    (tell level message fields : Work Endpoint Unit).Saves fit := ⟨trivial, fun _ _ _ => trivial⟩

theorem saves_putOff (channel : Channel) (d : Delivery) (delay limit : Nat) :
    (putOff channel d delay limit : Work Endpoint Bool).Saves fit := ⟨trivial, fun _ _ _ => trivial⟩

theorem compositional_saves : Compositional (π := Endpoint) fun _ work => work.Saves fit :=
  ⟨saves_pure, saves_tell, Saves.bind⟩

variable (c)

/-- Without an answer of a processor, only rows of the service are saved. -/
theorem saves_own {documentId : Uuid} {task : Task Endpoint ε α}
    (deeds : task.All (Deed.For c (fun _ => False) documentId)) : (ofTask task).Saves (Origin c) :=
  saves_ofTask (deeds.mono fun _ => Deed.For.saves fun _ never => never.elim)

theorem saves_initiate (documentId : Uuid) (processorIds : List String) (again : Bool) :
    (initiate c documentId processorIds again).Saves (Origin c) :=
  compositional_saves.initiate (saves_own c (Task.for_filter processorIds again)) fun left =>
    ⟨trivial, fun _ _ _ => saves_own c (Task.for_grant left _)⟩

theorem saves_settle (documentId : Uuid) (processorId : String) (processor : Processor Endpoint)
    (exchange : Http.Exchange) :
    (ofTask (Task.settle c documentId processorId processor
      (processor.duty.answer documentId exchange))).Saves (Origin c) := by
  have answered : ∀ row, processor.duty.answer documentId exchange = .ok row →
      ∃ (e : Endpoint) (exchange : Http.Exchange), e.answer documentId exchange = .ok row :=
    fun row said => ⟨_, _, said⟩
  exact saves_ofTask ((Task.for_settle processorId processor answered).mono fun _ =>
    Deed.For.saves fun _ said => said)

theorem saves_execute (documentId : Uuid) (processorId : String) :
    (execute c documentId processorId).Saves (Origin c) := by
  unfold execute Procedure.execute
  split
  · exact saves_own c (Task.for_refuse processorId)
  · exact ⟨trivial, fun scan exchange s => saves_settle c documentId processorId _ _⟩

theorem saves_line (text : String) : (line c text).Saves (Origin c) :=
  compositional_saves.line fun _ read => saves_ofTask (Task.saves_serve read)

variable (q) (d : Delivery)

theorem saves_event : (event c q d).Saves (Origin c) :=
  compositional_saves.event (fun documentId processorIds => saves_initiate c documentId processorIds false)
    (saves_putOff .events d)

theorem saves_request : (request c q d).Saves (Origin c) :=
  compositional_saves.request (saves_execute c) (saves_putOff .requests d)

end Work

/-- Whether a store in memory holds only rows that satisfy a condition. -/
def Stores (fit : Row → Prop) (store : Store) : Prop :=
  ∃ rows, store = .memory rows ∧ ∀ row ∈ rows, fit row

variable {fit : Row → Prop} {s t : Service}

theorem stores_of_leads {e : Effect} (leads : e.Leads s t) (stores : Stores fit s.store)
    (new : ∀ row ∈ e.rows, fit row) : Stores fit t.store := by
  obtain ⟨rows, held, old⟩ := stores
  have saved := leads.store
  rw [held, Store.saveAll_memory] at saved
  refine ⟨rows ++ e.rows, (Except.ok.inj saved).symm, fun row member => ?_⟩
  rcases List.mem_append.mp member with before | added
  · exact old row before
  · exact new row added

theorem stores_of_nothing (leads : Effect.nothing.Leads s t) (stores : Stores fit s.store) :
    Stores fit t.store :=
  stores_of_leads leads stores fun _ member => nomatch member

theorem Deed.stores {deed : Deed π α} (saves : deed.Saves fit) (stores : Stores fit s.store) :
    Stores fit (deed.perform s).2.store := by
  cases deed with
  | tell | readClock => exact stores
  | save c row =>
      rcases save_cases c row s with ⟨-, t, saved, leads, -⟩ | ⟨-, failure, t, failed, leads⟩
      · rw [perform, ExceptT.run, saved]
        exact stores_of_leads leads stores fun _ member => List.mem_singleton.mp member ▸ saves
      · rw [perform, ExceptT.run, failed]
        exact stores_of_nothing leads stores
  | ask c question =>
      obtain ⟨outcome, asked⟩ := ask_cases c question s
      rw [perform, ExceptT.run, asked]
      exact stores
  | publish channel payload =>
      rcases publish_cases channel payload s with ⟨-, t, sent, leads⟩ | ⟨-, failed⟩
      · rw [perform, ExceptT.run, sent]
        exact stores_of_leads leads stores fun row member => by cases channel <;> cases member
      · rw [perform, ExceptT.run, failed]
        exact stores

theorem Act.stores {act : Act π α} (saves : act.Saves fit) (o : Others π) (stores : Stores fit s.store) :
    Stores fit (act.perform o s).2.store := by
  cases act with
  | deed single => exact Deed.stores saves stores
  | look | call => exact stores
  | putOff channel d delay limit =>
      rcases Nat.lt_or_ge d.attempt limit with few | many
      · rw [perform, putOff_of_lt few]
        exact stores
      · rw [perform, putOff_of_le many]
        exact stores

/-- A service, with all the work on it that was begun. -/
structure Doings : Type 1 where
  service : Service
  works : List ((α : Type) × Work Endpoint α) := []

/-- Work of which nothing is done yet. -/
inductive Work.Fresh (c : Collaborators Endpoint) (q : QueueSettings) : ∀ {α}, Work Endpoint α → Prop where
  | line (text : String) : Fresh c q (.line c text)
  | event (d : Delivery) : Fresh c q (.event c q d)
  | request (d : Delivery) : Fresh c q (.request c q d)
  | initiate (documentId : Uuid) (processorIds : List String) (again : Bool) :
      Fresh c q (.initiate c documentId processorIds again)
  | execute (documentId : Uuid) (processorId : String) : Fresh c q (.execute c documentId processorId)

theorem Work.Fresh.saves {work : Work Endpoint α} (fresh : Fresh c q work) : work.Saves (Origin c) := by
  cases fresh with
  | line text => exact saves_line c text
  | event d => exact saves_event c q d
  | request d => exact saves_request c q d
  | initiate documentId processorIds again => exact saves_initiate c documentId processorIds again
  | execute documentId processorId => exact saves_execute c documentId processorId

namespace Doings

/-- What can happen next. -/
inductive Step (c : Collaborators Endpoint) (q : QueueSettings) : Doings → Doings → Prop where
  | begin (x : Doings) {α : Type} {work : Work Endpoint α} (fresh : work.Fresh c q) :
      Step c q x { x with works := x.works ++ [⟨α, work⟩] }
  /-- Some work goes on with its next act. -/
  | proceed {x : Doings} {before after : List ((α : Type) × Work Endpoint α)} {α β : Type}
      {act : Act Endpoint β} {rest : β → Work Endpoint α}
      (held : x.works = before ++ ⟨α, .doing act rest⟩ :: after)
      (scan : Uuid → Except ScanFailure ScanStatus) (exchange : Endpoint → Uuid → Http.Exchange) :
      Step c q x ⟨(act.perform (.overHttp scan exchange) x.service).2,
        before ++ ⟨α, rest (act.perform (.overHttp scan exchange) x.service).1⟩ :: after⟩
  /-- Anything else happens, but to the store. -/
  | outside {x : Doings} {t : Service} (same : t.store = x.service.store) :
      Step c q x { x with service := t }

variable {x y : Doings}

theorem steps_run (work : Work Endpoint α) (before : List ((α : Type) × Work Endpoint α)) (s : Service)
    (exchange : Endpoint → Uuid → Http.Exchange) :
    ReflTransGen (Step c q) ⟨s, before ++ [⟨α, work⟩]⟩
      ⟨(work.run (.overHttp c.scan exchange) s).2,
        before ++ [⟨α, .done (work.run (.overHttp c.scan exchange) s).1⟩]⟩ := by
  induction work generalizing s with
  | done a => exact .refl
  | doing act rest ih => exact .head (.proceed rfl c.scan exchange) (ih _ _)

/-- Work that nobody interrupts is done by steps. -/
theorem steps_alone {work : Work Endpoint α} (fresh : work.Fresh c q) (x : Doings)
    (exchange : Endpoint → Uuid → Http.Exchange) :
    ReflTransGen (Step c q) x ⟨(work.run (.overHttp c.scan exchange) x.service).2,
      x.works ++ [⟨α, .done (work.run (.overHttp c.scan exchange) x.service).1⟩]⟩ :=
  .head (.begin x fresh) (steps_run work x.works x.service exchange)

/-- So is a line answered. -/
theorem steps_answer (x : Doings) (text : String) :
    ReflTransGen (Step c q) x ⟨(Ingress.answer c text x.service).2,
      x.works ++ [⟨_, .done (Ingress.answer c text x.service).1⟩]⟩ := by
  have alone := steps_alone (q := q) (.line text) x (c := c) fun _ _ => .unreachable
  rwa [Others.overHttp, ← others, Work.run_line] at alone

end Doings

/-- What holds at all times. -/
structure Sourced (c : Collaborators Endpoint) (x : Doings) : Prop where
  rows : Stores (Origin c) x.service.store
  works : ∀ work ∈ x.works, work.2.Saves (Origin c)

namespace Sourced

variable {x y : Doings}

/-- Nothing that can happen breaks it. -/
theorem step (sourced : Sourced c x) (step : Doings.Step c q x y) : Sourced c y := by
  cases step with
  | begin fresh =>
      refine ⟨sourced.rows, fun other member => ?_⟩
      rcases List.mem_append.mp member with old | new
      · exact sourced.works other old
      · rw [List.mem_singleton.mp new]
        exact fresh.saves
  | @proceed before after α β act rest held scan exchange =>
      obtain ⟨saves, more⟩ := sourced.works ⟨α, .doing act rest⟩ (by rw [held]; simp)
      refine ⟨Act.stores saves _ sourced.rows, fun other member => ?_⟩
      rcases List.mem_append.mp member with old | member
      · exact sourced.works other (by rw [held]; exact List.mem_append_left _ old)
      · rcases List.mem_cons.mp member with rfl | old
        · exact more scan exchange x.service
        · exact sourced.works other
            (by rw [held]; exact List.mem_append_right _ (List.mem_cons_of_mem _ old))
  | outside same => exact ⟨same ▸ sourced.rows, sourced.works⟩

theorem steps (sourced : Sourced c x) (steps : ReflTransGen (Doings.Step c q) x y) : Sourced c y := by
  induction steps with
  | refl => exact sourced
  | tail _ step ih => exact ih.step step

end Sourced

/-- All rows that ever come into an empty store in memory are regular. -/
theorem regular_of_reached (empty : s.store = .memory []) {x : Doings}
    (reached : ReflTransGen (Doings.Step c q) ⟨s, []⟩ x) : Stores Row.Regular x.service.store := by
  have start : Sourced c ⟨s, []⟩ :=
    ⟨⟨[], empty, fun _ member => nomatch member⟩, fun _ member => nomatch member⟩
  obtain ⟨rows, held, origin⟩ := (start.steps reached).rows
  exact ⟨rows, held, fun row member => (origin row member).regular⟩

end Dossier.Service
