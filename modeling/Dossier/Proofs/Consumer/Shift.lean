import Dossier.Proofs.Consumer.Work
import Dossier.Settings.Basic
import Mathlib.Logic.Relation

/-! # The shift of a consumer

The consumer of requests from its start to its return. It takes a delivery, waits for a permit, begins a task on the
delivery and looks which tasks have ended, over and over; once it is told to stop or nothing can come any more, it
waits for all tasks. Tasks go on by single acts, and end or fail, at any time. Main statements: `Manned.step` and
`shift_drains`.
-/

namespace Dossier.Service

open Relation (ReflTransGen)

variable {π α : Type}

/-- One act of some work, whatever is answered to it. -/
inductive Work.Next : Work π α → Work π α → Prop where
  | act {β : Type} (act : Act π β) (rest : β → Work π α) (b : β) : Next (.doing act rest) (rest b)

/-- Where a consumer is. -/
inductive Stage where
  | selecting
  /-- It has taken a delivery, and waits for a permit. -/
  | waiting (d : Delivery)
  /-- It has begun a task, and looks which tasks have ended. -/
  | reaping
  /-- It takes no more deliveries, and waits for its tasks. -/
  | draining
  | returned

/-- The delivery that waits for a permit. -/
def Stage.held? : Stage → Option Delivery
  | .waiting d => some d
  | .selecting | .reaping | .draining | .returned => none

/-- Whether it takes no more deliveries. -/
def Stage.leaves : Stage → Bool
  | .draining | .returned => true
  | .selecting | .waiting _ | .reaping => false

/-- A consumer with its tasks. Each task bears its number and its delivery. -/
structure Shift (π : Type) : Type 1 where
  service : Service
  stage : Stage := .selecting
  /-- Whether it was told to stop. -/
  told : Bool := false
  /-- Whether nothing can come any more. -/
  closed : Bool := false
  /-- How many permits are left. -/
  free : Nat
  /-- The deliveries that wait to be taken. -/
  inbox : List Delivery := []
  /-- The tasks at work, with what is left to do. -/
  running : List ((Delivery × Nat) × Work π Receipt) := []
  /-- The tasks that have ended, with what they say unless they have failed. -/
  ended : List ((Delivery × Nat) × Option Receipt) := []
  /-- Those of them that the consumer has seen. -/
  reaped : List ((Delivery × Nat) × Option Receipt) := []
  /-- All deliveries that have come. -/
  arrived : List Delivery := []
  /-- All deliveries that were taken. -/
  taken : List Delivery := []
  /-- All deliveries that were given to tasks. -/
  begun : List Delivery := []

namespace Shift

def start (q : QueueSettings) (s : Service) : Shift π := { service := s, free := q.permits }

/-- All tasks that there ever were. -/
def tasks (x : Shift π) : List (Delivery × Nat) :=
  x.running.map (·.1) ++ (x.ended.map (·.1) ++ x.reaped.map (·.1))

/-- What can happen next. -/
inductive Step (c : Collaborators π) (q : QueueSettings) : Shift π → Shift π → Prop where
  /-- Others change the service. -/
  | outside (x : Shift π) (t : Service) : Step c q x { x with service := t }
  | arrive {x : Shift π} (opened : x.closed = false) (deliveries : List Delivery) :
      Step c q x { x with inbox := x.inbox ++ deliveries, arrived := x.arrived ++ deliveries }
  | tell (x : Shift π) : Step c q x { x with told := true }
  | close (x : Shift π) : Step c q x { x with closed := true }
  /-- A delivery may be taken even if the consumer was told to stop. -/
  | receive {x : Shift π} {d : Delivery} {rest : List Delivery} (stage : x.stage = .selecting)
      (first : x.inbox = d :: rest) :
      Step c q x { x with stage := .waiting d, inbox := rest, taken := x.taken ++ [d] }
  | leave {x : Shift π} (stage : x.stage = .selecting)
      (reason : x.told = true ∨ x.closed = true ∧ x.inbox = []) :
      Step c q x { x with stage := .draining }
  | begin {x : Shift π} {d : Delivery} (stage : x.stage = .waiting d) (permitted : 0 < x.free) :
      Step c q x { x with
        stage := .reaping
        free := x.free - 1
        running := x.running ++ [((d, x.begun.length), .request c q d)]
        begun := x.begun ++ [d] }
  | proceed {x : Shift π} {before after : List ((Delivery × Nat) × Work π Receipt)}
      {task : Delivery × Nat} {β : Type} {act : Act π β} {rest : β → Work π Receipt}
      (held : x.running = before ++ (task, .doing act rest) :: after) (o : Others π) :
      Step c q x { x with
        service := (act.perform o x.service).2
        running := before ++ (task, rest (act.perform o x.service).1) :: after }
  | finish {x : Shift π} {before after : List ((Delivery × Nat) × Work π Receipt)}
      {task : Delivery × Nat} {receipt : Receipt}
      (held : x.running = before ++ (task, .done receipt) :: after) :
      Step c q x { x with
        free := x.free + 1
        running := before ++ after
        ended := x.ended ++ [(task, some receipt)] }
  | fail {x : Shift π} {before after : List ((Delivery × Nat) × Work π Receipt)}
      {task : Delivery × Nat} {work : Work π Receipt}
      (held : x.running = before ++ (task, work) :: after) :
      Step c q x { x with
        free := x.free + 1
        running := before ++ after
        ended := x.ended ++ [(task, none)] }
  | reap {x : Shift π} {before after : List ((Delivery × Nat) × Option Receipt)}
      {task : (Delivery × Nat) × Option Receipt} (stage : x.stage = .reaping ∨ x.stage = .draining)
      (held : x.ended = before ++ task :: after) :
      Step c q x { x with ended := before ++ after, reaped := x.reaped ++ [task] }
  | select {x : Shift π} (stage : x.stage = .reaping) : Step c q x { x with stage := .selecting }
  | return {x : Shift π} (stage : x.stage = .draining) (idle : x.running = []) (seen : x.ended = []) :
      Step c q x { x with stage := .returned }

end Shift

/-- What a task has ended with that was begun on a delivery; a task that has failed has ended with nothing. -/
def Work.Ends (c : Collaborators π) (q : QueueSettings) (d : Delivery) (receipt : Receipt) : Prop :=
  ReflTransGen Work.Next (.request c q d) (.done receipt)

/-- What holds at all times. -/
structure Manned (c : Collaborators π) (q : QueueSettings) (x : Shift π) : Prop where
  permits : x.free + x.running.length = q.permits
  arrived : x.arrived = x.taken ++ x.inbox
  taken : x.taken = x.begun ++ x.stage.held?.toList
  tasks : x.tasks.Perm x.begun.zipIdx
  running : ∀ task ∈ x.running, ReflTransGen Work.Next (.request c q task.1.1) task.2
  ended : ∀ task ∈ x.ended ++ x.reaped, ∀ receipt ∈ task.2, Work.Ends c q task.1.1 receipt
  /-- A consumer that was not told to stop leaves only when nothing can come any more. -/
  quits : x.stage.leaves → x.told = false → x.closed = true ∧ x.inbox = []
  drained : x.stage = .returned → x.running = [] ∧ x.ended = []

namespace Manned

variable {c : Collaborators π} {q : QueueSettings} {x y : Shift π}

theorem start (c : Collaborators π) (q : QueueSettings) (s : Service) : Manned c q (.start q s) :=
  ⟨rfl, rfl, rfl, .refl _, by simp [Shift.start], by simp [Shift.start], (fun leaves => nomatch leaves),
    fun stage => nomatch stage⟩

variable {before after : List ((Delivery × Nat) × Work π Receipt)} {task : Delivery × Nat}
  {work : Work π Receipt}

/-- Whoever is at work has not returned. -/
theorem not_returned (manned : Manned c q x) (held : x.running = before ++ (task, work) :: after) :
    x.stage ≠ .returned := by
  intro stage
  have idle := (manned.drained stage).1
  rw [held] at idle
  simp at idle

/-- A task ends, and gives its permit back. -/
theorem ends (manned : Manned c q x) (held : x.running = before ++ (task, work) :: after)
    {receipt : Option Receipt} (ended : ∀ said ∈ receipt, Work.Ends c q task.1 said) :
    Manned c q { x with
      free := x.free + 1
      running := before ++ after
      ended := x.ended ++ [(task, receipt)] } where
  permits := by
    have permits := manned.permits
    simp only [held, List.length_append, List.length_cons] at permits ⊢
    omega
  arrived := manned.arrived
  taken := manned.taken
  tasks := by
    refine List.Perm.trans (List.perm_iff_count.mpr fun other => ?_) manned.tasks
    simp only [Shift.tasks, held, List.map_append, List.map_cons, List.map_nil, List.count_append,
      List.count_cons, List.count_nil]
    omega
  running other member := by
    refine manned.running other ?_
    rw [held]
    exact List.mem_append.mpr ((List.mem_append.mp member).imp_right (List.mem_cons_of_mem _))
  ended other member said among := by
    simp only [List.mem_append, List.mem_singleton] at member
    rcases member with (old | rfl) | seen
    · exact manned.ended other (List.mem_append_left _ old) said among
    · exact ended said among
    · exact manned.ended other (List.mem_append_right _ seen) said among
  quits := manned.quits
  drained stage := absurd stage (manned.not_returned held)

/-- Nothing that can happen breaks it. -/
theorem step (manned : Manned c q x) (step : Shift.Step c q x y) : Manned c q y := by
  cases step with
  | outside t => exact { manned with }
  | arrive opened deliveries =>
      exact { manned with
        arrived := by rw [manned.arrived, List.append_assoc]
        quits := fun leaves told => nomatch opened.symm.trans (manned.quits leaves told).1 }
  | tell => exact { manned with quits := fun _ told => nomatch told }
  | close => exact { manned with quits := fun leaves told => ⟨rfl, (manned.quits leaves told).2⟩ }
  | @receive d rest stage first =>
      have taken := manned.taken
      rw [stage] at taken
      exact { manned with
        arrived := by rw [manned.arrived, first, List.append_assoc]; rfl
        taken := by rw [taken]; simp [Stage.held?]
        quits := fun leaves => nomatch leaves
        drained := fun stage => nomatch stage }
  | leave stage reason =>
      have taken := manned.taken
      rw [stage] at taken
      exact { manned with
        taken
        quits := fun _ told => reason.resolve_left fun stopped => nomatch told.symm.trans stopped
        drained := fun stage => nomatch stage }
  | @begin d stage permitted =>
      have taken := manned.taken
      rw [stage] at taken
      exact {
        permits := by
          have permits := manned.permits
          simp only [List.length_append, List.length_singleton]
          omega
        arrived := manned.arrived
        taken := by rw [taken]; simp [Stage.held?]
        tasks := by
          rw [List.zipIdx_append]
          refine List.perm_iff_count.mpr fun other => ?_
          have count := List.perm_iff_count.mp manned.tasks other
          simp only [Shift.tasks, List.map_append, List.map_cons, List.map_nil, List.count_append,
            List.zipIdx_cons, List.zipIdx_nil, Nat.zero_add] at count ⊢
          omega
        running := by
          intro task member
          rcases List.mem_append.mp member with old | new
          · exact manned.running task old
          · rw [List.mem_singleton.mp new]
        ended := manned.ended
        quits := fun leaves => nomatch leaves
        drained := fun stage => nomatch stage }
  | @proceed before after task β act rest held o =>
      have begun := manned.running (task, .doing act rest) (by rw [held]; simp)
      exact { manned with
        permits := by
          have permits := manned.permits
          rw [held] at permits
          simpa only [List.length_append, List.length_cons] using permits
        tasks := by
          have tasks := manned.tasks
          rw [Shift.tasks, held] at tasks
          simpa only [Shift.tasks, List.map_append, List.map_cons] using tasks
        running := by
          intro other member
          rcases List.mem_append.mp member with old | member
          · exact manned.running other (by rw [held]; exact List.mem_append_left _ old)
          · rcases List.mem_cons.mp member with rfl | old
            · exact begun.tail (.act act rest _)
            · exact manned.running other
                (by rw [held]; exact List.mem_append_right _ (List.mem_cons_of_mem _ old))
        drained := fun stage => absurd stage (manned.not_returned held) }
  | @finish before after task receipt held =>
      refine manned.ends held fun said among => ?_
      cases among
      exact manned.running (task, .done receipt) (by rw [held]; simp)
  | fail held => exact manned.ends held fun said among => nomatch among
  | @reap before after task stage held =>
      have same : ∀ other, other ∈ before ++ after ++ (x.reaped ++ [task]) → other ∈ x.ended ++ x.reaped := by
        intro other
        simp only [held, List.mem_append, List.mem_cons, List.not_mem_nil, or_false]
        tauto
      exact { manned with
        tasks := by
          refine List.Perm.trans (List.perm_iff_count.mpr fun other => ?_) manned.tasks
          simp only [Shift.tasks, held, List.map_append, List.map_cons, List.map_nil, List.count_append,
            List.count_cons, List.count_nil]
          omega
        ended := fun other member => manned.ended other (same other member)
        drained := fun returned => by
          rcases stage with stage | stage
          · exact nomatch stage.symm.trans returned
          · exact nomatch stage.symm.trans returned }
  | select stage =>
      have taken := manned.taken
      rw [stage] at taken
      exact { manned with
        taken
        quits := fun leaves => nomatch leaves
        drained := fun stage => nomatch stage }
  | «return» stage idle seen =>
      have taken := manned.taken
      rw [stage] at taken
      exact { manned with
        taken
        quits := fun _ => manned.quits (by rw [stage]; rfl)
        drained := fun _ => ⟨idle, seen⟩ }

theorem steps (manned : Manned c q x) (steps : ReflTransGen (Shift.Step c q) x y) : Manned c q y := by
  induction steps with
  | refl => exact manned
  | tail _ step ih => exact ih.step step

end Manned

theorem one_le_permits (q : QueueSettings) : 1 ≤ q.permits := Nat.le_min.mpr ⟨Nat.le_max_right _ _, by decide⟩

namespace Shift

variable {c : Collaborators π} {q : QueueSettings} {x : Shift π} {task : Delivery × Nat}
  {before after : List ((Delivery × Nat) × Work π Receipt)} {work : Work π Receipt}

/-- A task is done without a break. -/
theorem steps_run (o : Others π) (held : x.running = before ++ (task, work) :: after) :
    ReflTransGen (Step c q) x { x with
      service := (work.run o x.service).2
      running := before ++ (task, .done (work.run o x.service).1) :: after } := by
  induction work generalizing x with
  | done receipt =>
      rw [← show x.running = before ++ (task, .done ((Work.done receipt).run o x.service).1) :: after from held]
      exact .refl
  | doing act rest ih => exact .head (.proceed held o) (ih _ rfl)

theorem steps_end (o : Others π) (held : x.running = before ++ (task, work) :: after) :
    ReflTransGen (Step c q) x { x with
      service := (work.run o x.service).2
      free := x.free + 1
      running := before ++ after
      ended := x.ended ++ [(task, some (work.run o x.service).1)] } :=
  (steps_run o held).tail (.finish rfl)

/-- A consumer whose tasks have all ended looks at them and returns. -/
theorem returns {x : Shift π} (stage : x.stage = .draining) (idle : x.running = []) :
    ∃ y, ReflTransGen (Step c q) x y ∧ y.stage = .returned ∧ y.service = x.service ∧
      y.arrived = x.arrived ∧ y.inbox = x.inbox := by
  cases seen : x.ended with
  | nil => exact ⟨_, .single (.return stage idle seen), rfl, rfl, rfl, rfl⟩
  | cons task rest =>
      have reaps : Step c q x { x with ended := rest, reaped := x.reaped ++ [task] } :=
        .reap (.inr stage) (show x.ended = [] ++ task :: rest from seen)
      obtain ⟨y, steps, ended⟩ :=
        returns (x := { x with ended := rest, reaped := x.reaped ++ [task] }) stage idle
      exact ⟨y, .head reaps steps, ended⟩
termination_by x.ended.length
decreasing_by simp only [seen, List.length_cons, Nat.lt_succ_self]

/-- A task that is alone, and has only to tell something, ends. -/
theorem steps_tell {entry : LogEntry} {receipt : Receipt} (o : Others π)
    (held : x.running = [(task, .doing (.deed (.tell entry.level entry.message entry.fields))
      fun _ => .done receipt)]) :
    ReflTransGen (Step c q) x { x with
      service := { x.service with log := x.service.log ++ [entry] }
      free := x.free + 1
      running := []
      ended := x.ended ++ [(task, some receipt)] } :=
  steps_end o (show x.running = [] ++ (task, _) :: [] from held)

end Shift

/-- There is at least one permit, and there are never more tasks at work than permits. Every delivery that is taken is
given to one task, in the order of taking, and at most one waits for a permit. When the consumer has returned, every
delivery that it ever took was given to a task which has ended, and which has done all work on it if it has not
failed. That work is what the consumer does with a delivery. -/
theorem shift_drains (c : Collaborators π) (q : QueueSettings) :
    1 ≤ q.permits ∧
    (∀ process d, (Work.request c q d).run (others c process) = RequestConsumer.handle c q process d) ∧
    ∀ s (x : Shift π), ReflTransGen (Shift.Step c q) (.start q s) x →
      x.running.length ≤ q.permits ∧ x.free + x.running.length = q.permits ∧
      x.arrived = x.taken ++ x.inbox ∧ x.taken = x.begun ++ x.stage.held?.toList ∧
      x.tasks.Perm x.begun.zipIdx ∧
      (x.stage = .returned → x.running = [] ∧ x.begun = x.taken ∧
        (x.reaped.map (·.1)).Perm x.taken.zipIdx ∧
        ∀ task ∈ x.reaped, ∀ receipt ∈ task.2,
          ReflTransGen Work.Next (.request c q task.1.1) (.done receipt)) := by
  refine ⟨one_le_permits q, fun process d => Work.run_request c process q d, ?_⟩
  intro s x reached
  have manned := (Manned.start c q s).steps reached
  refine ⟨?_, manned.permits, manned.arrived, manned.taken, manned.tasks, fun stage => ?_⟩
  · exact manned.permits ▸ Nat.le_add_left _ _
  · obtain ⟨idle, seen⟩ := manned.drained stage
    have all : x.begun = x.taken := by
      rw [manned.taken, stage]
      exact (List.append_nil _).symm
    have tasks := manned.tasks
    rw [Shift.tasks, idle, seen, all] at tasks
    exact ⟨idle, all, tasks, fun task member => manned.ended task (List.mem_append_right _ member)⟩

/-- A consumer with one permit is told to stop while a delivery waits for it, and handles that before it returns. -/
theorem shift_told_waiting :
    let c : Collaborators Endpoint := .reliable [] (fun _ => .ok .ready) dayClock
    let q : QueueSettings := { workers := 0 }
    ∃ x y : Shift Endpoint, ReflTransGen (Shift.Step c q) (.start q { store := .empty }) x ∧
      ReflTransGen (Shift.Step c q) x y ∧
      x.told = true ∧ x.stage = .waiting (.first "-") ∧ x.running.map (·.1) = [(.first "", 0)] ∧
      y.stage = .returned ∧ y.running = [] ∧
      (y.reaped.map (·.1)).Perm [(.first "", 0), (.first "-", 1)] := by
  intro c q
  let o : Others Endpoint := others c fun _ _ => .error .invalidResponse
  obtain ⟨one, first⟩ : ∃ entry : LogEntry, Work.request c q (.first "") =
      .doing (.deed (.tell entry.level entry.message entry.fields)) fun _ => .done .ack :=
    ⟨⟨_, _, _⟩, rfl⟩
  obtain ⟨two, second⟩ : ∃ entry : LogEntry, Work.request c q (.first "-") =
      .doing (.deed (.tell entry.level entry.message entry.fields)) fun _ => .done .ack :=
    ⟨⟨_, _, _⟩, rfl⟩
  let x : Shift Endpoint :=
    { service := { store := .empty }
      stage := .waiting (.first "-")
      told := true
      free := 0
      running := [((.first "", 0), .request c q (.first ""))]
      arrived := [.first "", .first "-"]
      taken := [.first "", .first "-"]
      begun := [.first ""] }
  let y : Shift Endpoint :=
    { service := { store := .empty, log := [one, two] }
      stage := .reaping
      told := true
      free := 1
      ended := [((.first "", 0), some .ack), ((.first "-", 1), some .ack)]
      arrived := [.first "", .first "-"]
      taken := [.first "", .first "-"]
      begun := [.first "", .first "-"] }
  have waits : ReflTransGen (Shift.Step c q) (.start q { store := .empty }) x :=
    .head (.arrive rfl [.first "", .first "-"]) <| .head (.receive rfl rfl) <|
    .head (.begin rfl Nat.one_pos) <| .head (.select rfl) <| .head (.receive rfl rfl) <|
    .single (.tell _)
  have handles : ReflTransGen (Shift.Step c q) x y :=
    (Shift.steps_tell o (congrArg (fun work => [(_, work)]) first)).trans <|
    .head (.begin rfl Nat.one_pos) <| Shift.steps_tell o (congrArg (fun work => [(_, work)]) second)
  have returns : ReflTransGen (Shift.Step c q) y { y with
      stage := .returned, ended := [], reaped := y.ended } :=
    .head (.select rfl) <| .head (.leave rfl (.inl rfl)) <|
    .head (.reap (.inr rfl) (show _ = [] ++ _ :: _ from rfl)) <|
    .head (.reap (.inr rfl) (show _ = [] ++ _ :: _ from rfl)) <| .single (.return rfl rfl rfl)
  obtain ⟨-, -, holds⟩ := shift_drains c q
  obtain ⟨-, -, -, -, -, drained⟩ := holds _ _ (waits.trans (handles.trans returns))
  obtain ⟨idle, -, reaped, -⟩ := drained rfl
  exact ⟨x, _, waits, handles.trans returns, rfl, rfl, rfl, rfl, idle, reaped⟩

end Dossier.Service
