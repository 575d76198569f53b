import Dossier.Proofs.Consumer.Shift
import Dossier.Rehearsal.Crew

/-! # Crews work in shifts

What the workers of a crew do in a rehearsal, and how a crew takes deliveries and leaves, are steps in a shift of the
consumer of requests. Main statements: `Enacted.takeUp`, `Enacted.begin` and `Enacted.hear`.
-/

namespace Dossier

open Service (Shift Stage Work Others others)
open Relation (ReflTransGen)

namespace Crew

theorem assign_inbox (crew : Crew) (inbox : List Delivery) :
    { crew with inbox }.assign = { crew.assign with inbox } := by
  cases crew with
  | mk free inbox held ready busy finished accepting given =>
      cases held with
      | none => rfl
      | some d =>
          simp only [assign]
          split
          · rfl
          · rfl

theorem assign_accepting (crew : Crew) : crew.assign.accepting = crew.accepting := by
  unfold assign
  split
  · split
    · rfl
    · rfl
  · rfl

end Crew

namespace Rehearsal

variable {c : Collaborators Script} {q : QueueSettings} {d : Delivery} {r : Rehearsal} {t : Service}

theorem begin_of_done {receipt : Receipt} (crew : Crew)
    (started : RequestConsumer.start c q d r.service = (.done receipt, t)) :
    begin c q crew d r = (crew.release, { r with service := t }) := by
  simp only [begin, perform, bind, StateT.bind, started]
  rfl

/-- A processor is called, and is heard at once or is waited for. -/
theorem begin_of_calling {processor : Processor Script} {request : Request} (crew : Crew)
    (started : RequestConsumer.start c q d r.service = (.calling processor request, t)) :
    ∃ due act called,
      begin c q crew d r = hear c q crew ⟨due, d, processor, request, act⟩ ⟨t, called⟩ ∨
      begin c q crew d r =
        ({ crew with busy := crew.busy ++ [⟨due, d, processor, request, act⟩] }, ⟨t, called⟩) := by
  let cue := processor.duty.cue (r.called.count processor.duty.id)
  refine ⟨t.now + cue.delayMs, cue.act, r.called ++ [processor.duty.id], ?_⟩
  by_cases instant : cue.delayMs = 0
  · left
    simp only [begin, perform, bind, StateT.bind, started]
    exact congrFun (if_pos instant) _
  · right
    simp only [begin, perform, bind, StateT.bind, started]
    exact congrFun (if_neg instant) _

theorem standDown_fst (crew : Crew) (r : Rehearsal) : (standDown crew r).1 = { crew with accepting := false } := by
  unfold standDown
  split
  · rfl
  · rfl

end Rehearsal

/-- What is left to do of a delivery that no worker has begun. -/
def Delivery.work (c : Collaborators Script) (q : QueueSettings) (d : Delivery) :
    Delivery × Work Script Receipt :=
  (d, .request c q d)

/-- What is left to do of a job. -/
def Job.work (c : Collaborators Script) (q : QueueSettings) (job : Job) :
    Delivery × Work Script Receipt :=
  (job.delivery, .doing (.call job.processor.duty job.request.documentId)
    (Work.finish c q job.delivery job.processor job.request))

/-- Where the consumer is that has a crew. -/
def Crew.stage (crew : Crew) : Stage :=
  match crew.held with
  | some d => .waiting d
  | none => if crew.accepting then .selecting else .draining

/-- What is left to do of all that the workers of a crew are on. -/
def Crew.works (c : Collaborators Script) (q : QueueSettings) (crew : Crew) :
    List (Delivery × Work Script Receipt) :=
  crew.ready.map (·.work c q) ++ crew.busy.map (·.work c q)

/-- Whether a shift is that of a crew, and of workers with other work that is pending. -/
structure Mirrors (c : Collaborators Script) (q : QueueSettings)
    (pending : List (Delivery × Work Script Receipt)) (deadline : Option Nat) (told : Bool) (crew : Crew)
    (s : Service) (x : Shift Script) : Prop where
  service : x.service = s
  stage : x.stage = crew.stage
  opened : deadline.isSome → x.closed = false
  closed : deadline = none → told = true ∨ x.closed = true
  told : x.told = told
  free : x.free = crew.free
  inbox : x.inbox = crew.inbox
  arrived : x.arrived = crew.given
  running : (x.running.map fun task => (task.1.1, task.2)).Perm (pending ++ crew.works c q)
  accepting : crew.held.isSome → crew.accepting = true

/-- Whether a shift that began so can become that of a crew. -/
def Enacted (start : Shift Script) (c : Collaborators Script) (q : QueueSettings)
    (pending : List (Delivery × Work Script Receipt)) (deadline : Option Nat) (told : Bool) (crew : Crew)
    (s : Service) : Prop :=
  ∃ x, ReflTransGen (Shift.Step c q) start x ∧ Mirrors c q pending deadline told crew s x

namespace Enacted

variable {start : Shift Script} {c : Collaborators Script} {q : QueueSettings}
  {pending : List (Delivery × Work Script Receipt)} {deadline : Option Nat} {told : Bool} {crew : Crew}
  {s : Service}

theorem outside (enacted : Enacted start c q pending deadline told crew s) (t : Service) :
    Enacted start c q pending deadline told crew t := by
  obtain ⟨x, reached, mirrors⟩ := enacted
  exact ⟨_, reached.tail (.outside x t), { mirrors with service := rfl }⟩

/-- The pending work that comes first is found among the tasks. -/
theorem running {x : Shift Script} {d : Delivery} {work : Work Script Receipt}
    (mirrors : Mirrors c q ((d, work) :: pending) deadline told crew s x) :
    ∃ before task after, x.running = before ++ (task, work) :: after ∧ task.1 = d ∧
      ((before ++ after).map fun task => (task.1.1, task.2)).Perm (pending ++ crew.works c q) := by
  have member : (d, work) ∈ x.running.map fun task => (task.1.1, task.2) :=
    mirrors.running.mem_iff.mpr (List.mem_cons_self ..)
  obtain ⟨⟨task, _⟩, among, same⟩ := List.mem_map.mp member
  obtain ⟨rfl, rfl⟩ := Prod.mk.inj same
  obtain ⟨before, after, held⟩ := List.append_of_mem among
  refine ⟨before, task, after, held, rfl, ?_⟩
  have running := mirrors.running
  rw [held, List.map_append, List.map_cons] at running
  rw [List.map_append]
  exact (List.perm_middle.symm.trans running).cons_inv

/-- A worker ends its task, and is free. -/
theorem release {d : Delivery} {work : Work Script Receipt}
    (enacted : Enacted start c q ((d, work) :: pending) deadline told crew s) (o : Others Script) :
    Enacted start c q pending deadline told crew.release (work.run o s).2 := by
  obtain ⟨x, reached, mirrors⟩ := enacted
  obtain ⟨before, task, after, held, -, rest⟩ := running mirrors
  refine ⟨_, reached.trans (Shift.steps_end o held), { mirrors with
    service := by rw [mirrors.service]
    free := congrArg (· + 1) mirrors.free
    running := rest }⟩

/-- A worker is taken down, and another can take its place. -/
theorem collapse {d : Delivery} {work : Work Script Receipt}
    (enacted : Enacted start c q ((d, work) :: pending) deadline told crew s) :
    Enacted start c q pending deadline told crew.release s := by
  obtain ⟨x, reached, mirrors⟩ := enacted
  obtain ⟨before, task, after, held, -, rest⟩ := running mirrors
  refine ⟨_, reached.tail (.fail held), { mirrors with
    free := congrArg (· + 1) mirrors.free
    running := rest }⟩

/-- A worker waits for a processor. -/
theorem await (job : Job) (enacted : Enacted start c q (job.work c q :: pending) deadline told crew s) :
    Enacted start c q pending deadline told { crew with busy := crew.busy ++ [job] } s := by
  obtain ⟨x, reached, mirrors⟩ := enacted
  have works : { crew with busy := crew.busy ++ [job] }.works c q = crew.works c q ++ [job.work c q] := by
    simp only [Crew.works, List.map_append, List.map_cons, List.map_nil, List.append_assoc]
  refine ⟨x, reached, { mirrors with running := ?_ }⟩
  rw [works, ← List.append_assoc]
  exact mirrors.running.trans (List.perm_append_singleton _ _).symm

theorem assign (enacted : Enacted start c q pending deadline told crew s) :
    Enacted start c q pending deadline told crew.assign s := by
  unfold Crew.assign
  split
  · next d held =>
    split
    · exact enacted
    · next permitted =>
      obtain ⟨x, reached, mirrors⟩ := enacted
      have waiting : x.stage = .waiting d := by rw [mirrors.stage, Crew.stage, held]
      have accepting := mirrors.accepting (by rw [held]; rfl)
      refine ⟨_, (reached.tail (.begin waiting ?_)).tail (.select rfl), { mirrors with
        stage := ?_
        free := ?_
        running := ?_
        accepting := ?_ }⟩
      · rw [mirrors.free]
        exact Nat.pos_of_ne_zero permitted
      · simp only [Crew.stage, accepting, if_true]
      · rw [← mirrors.free]
      · have more := mirrors.running.append_right [d.work c q]
        rw [List.map_append]
        refine more.trans ?_
        simp only [Crew.works, List.map_append, List.map_cons, List.map_nil, List.append_assoc]
        exact (List.perm_append_comm.append_left _).append_left _
      · exact fun still => nomatch still
  · exact enacted

/-- The first delivery of the inbox is taken. -/
theorem take {d : Delivery} {rest : List Delivery} (free : crew.held = none) (accepting : crew.accepting = true)
    (enacted : Enacted start c q pending deadline told { crew with inbox := d :: rest } s) :
    Enacted start c q pending deadline told { crew with held := some d, inbox := rest } s := by
  obtain ⟨x, reached, mirrors⟩ := enacted
  have selecting : x.stage = .selecting := by
    simp only [mirrors.stage, Crew.stage, free, accepting, if_true]
  exact ⟨_, reached.tail (.receive selecting mirrors.inbox), { mirrors with
    stage := rfl
    inbox := rfl
    accepting := fun _ => accepting }⟩

theorem fill {inbox : List Delivery} (free : crew.held = none) (accepting : crew.accepting = true)
    (enacted : Enacted start c q pending deadline told { crew with inbox } s) :
    Enacted start c q pending deadline told (Crew.fill inbox crew) s := by
  induction inbox generalizing crew with
  | nil => exact enacted
  | cons d rest ih =>
      have assigned := (enacted.take free accepting).assign
      have same := Crew.assign_inbox { crew with held := some d } rest
      rw [same] at assigned
      simp only [Crew.fill]
      split
      · exact assigned
      · next none =>
        exact ih (Option.not_isSome_iff_eq_none.mp none) ((Crew.assign_accepting _).trans accepting) assigned

theorem takeUp (enacted : Enacted start c q pending deadline told crew s) :
    Enacted start c q pending deadline told (crew.takeUp told) s := by
  have assigned := enacted.assign
  simp only [Crew.takeUp]
  split
  · exact assigned
  · next on =>
    simp only [Bool.or_eq_true, not_or, Bool.not_eq_true, Bool.not_eq_false'] at on
    obtain ⟨⟨none, -⟩, accepting⟩ := on
    exact assigned.fill (Option.isSome_eq_false_iff.mp none |> Option.isNone_iff_eq_none.mp) accepting

/-- A crew that accepts nothing any more. -/
theorem leave (accepting : crew.accepting = true)
    (quiet : (crew.held.isNone && (told || (deadline.isNone && crew.inbox.isEmpty))) = true)
    (enacted : Enacted start c q pending deadline told crew s) :
    Enacted start c q pending deadline told { crew with accepting := false } s := by
  obtain ⟨x, reached, mirrors⟩ := enacted
  simp only [Bool.and_eq_true, Bool.or_eq_true, Option.isNone_iff_eq_none, List.isEmpty_iff] at quiet
  obtain ⟨free, reason⟩ := quiet
  have selecting : x.stage = .selecting := by
    simp only [mirrors.stage, Crew.stage, free, accepting, if_true]
  have reason : x.told = true ∨ x.closed = true ∧ x.inbox = [] := by
    rw [mirrors.told, mirrors.inbox]
    rcases reason with stopped | ⟨endless, empty⟩
    · exact .inl stopped
    · exact (mirrors.closed endless).imp_right fun closed => ⟨closed, empty⟩
  exact ⟨_, reached.tail (.leave selecting reason), { mirrors with
    stage := by simp only [Crew.stage, free]; rfl
    accepting := fun held => by rw [free] at held; exact nomatch held }⟩

/-- The deadline may have come, and then the consumer is told to stop. -/
theorem ring (time : Nat) (enacted : Enacted start c q pending deadline told crew s) :
    Enacted start c q pending (if deadline == some time then none else deadline)
      (told || deadline == some time) crew s := by
  obtain ⟨x, reached, mirrors⟩ := enacted
  by_cases come : (deadline == some time) = true
  · rw [come, Bool.or_true]
    exact ⟨_, reached.tail (.tell x), { mirrors with
      opened := fun some => nomatch some
      closed := fun _ => .inl rfl
      told := rfl }⟩
  · rw [if_neg come, Bool.eq_false_iff.mpr come, Bool.or_false]
    exact ⟨x, reached, mirrors⟩

/-- Deliveries come, if any still can. -/
theorem arrive (news : List Delivery) (open_ : deadline.isSome)
    (enacted : Enacted start c q pending deadline told crew s) :
    Enacted start c q pending deadline told
      { crew with inbox := crew.inbox ++ news, given := crew.given ++ news } s := by
  obtain ⟨x, reached, mirrors⟩ := enacted
  exact ⟨_, reached.tail (.arrive (mirrors.opened open_) news), { mirrors with
    inbox := congrArg (· ++ news) mirrors.inbox
    arrived := congrArg (· ++ news) mirrors.arrived }⟩

theorem standDown (accepting : crew.accepting = true)
    (quiet : (crew.held.isNone && (told || (deadline.isNone && crew.inbox.isEmpty))) = true) {r : Rehearsal}
    (enacted : Enacted start c q pending deadline told crew r.service) :
    Enacted start c q pending deadline told (Rehearsal.standDown crew r).1
      (Rehearsal.standDown crew r).2.service := by
  unfold Rehearsal.standDown
  split
  · exact (enacted.leave accepting quiet).outside _
  · exact enacted.leave accepting quiet

theorem hear {job : Job} {r : Rehearsal}
    (enacted : Enacted start c q (job.work c q :: pending) deadline told crew r.service) :
    Enacted start c q pending deadline told (Rehearsal.hear c q crew job r).1
      (Rehearsal.hear c q crew job r).2.service := by
  cases answered : job.act.answer? job.request.documentId with
  | some answer =>
    simp only [Rehearsal.hear, answered]
    have ended : Enacted start c q pending deadline told crew.release
        ((Work.finish c q job.delivery job.processor job.request answer).run (others c fun _ _ => answer)
          r.service).2 := enacted.release (others c fun _ _ => answer)
    rw [Work.run_finish] at ended
    exact ended
  | none =>
    simp only [Rehearsal.hear, answered]
    exact enacted.collapse.outside _

theorem begin {d : Delivery} {r : Rehearsal}
    (enacted : Enacted start c q (d.work c q :: pending) deadline told crew r.service) :
    Enacted start c q pending deadline told (Rehearsal.begin c q crew d r).1
      (Rehearsal.begin c q crew d r).2.service := by
  rcases started : RequestConsumer.start c q d r.service with ⟨receipt | ⟨processor, request⟩, t⟩
  · have ended := enacted.release (others c fun _ _ => .error .invalidResponse)
    rw [Work.request_of_done _ started] at ended
    rw [Rehearsal.begin_of_done crew started]
    exact ended
  · obtain ⟨rfl, work⟩ := Work.request_of_calling started
    obtain ⟨due, act, called, begun⟩ := Rehearsal.begin_of_calling crew started
    have same : Job.work c q ⟨due, d, processor, request, act⟩ = d.work c q := by
      rw [Delivery.work, work]
      rfl
    rw [← same] at enacted
    rcases begun with begun | begun
    · rw [begun]
      exact hear (r := ⟨_, called⟩) enacted
    · rw [begun]
      exact enacted.await _

/-- The work is divided in another way. -/
theorem regroup {others : List (Delivery × Work Script Receipt)} {ready : List Delivery} {busy : List Job}
    (enacted : Enacted start c q pending deadline told crew s)
    (same : (pending ++ crew.works c q).Perm (others ++ { crew with ready, busy }.works c q)) :
    Enacted start c q others deadline told { crew with ready, busy } s := by
  obtain ⟨x, reached, mirrors⟩ := enacted
  exact ⟨x, reached, { mirrors with running := mirrors.running.trans same }⟩

theorem forEach {α : Type} {work : Crew → α → Scene Crew} {item : α → Delivery × Work Script Receipt}
    (each : ∀ {pending crew x} {r : Rehearsal},
      Enacted start c q (item x :: pending) deadline told crew r.service →
      Enacted start c q pending deadline told (work crew x r).1 (work crew x r).2.service)
    {xs : List α} {r : Rehearsal}
    (enacted : Enacted start c q (xs.map item ++ pending) deadline told crew r.service) :
    Enacted start c q pending deadline told (Rehearsal.forEach work xs crew r).1
      (Rehearsal.forEach work xs crew r).2.service := by
  induction xs generalizing crew r with
  | nil => exact enacted
  | cons x rest ih => exact ih (each enacted)

end Enacted

end Dossier
