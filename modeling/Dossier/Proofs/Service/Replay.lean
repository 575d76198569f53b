import Dossier.Proofs.Service.Latest
import Dossier.Proofs.Service.Task
import Mathlib.Logic.Relation

/-! # Initiations that come again

Once an initiation has gone well each of its processors has a row, and with a store in memory it keeps that row
whatever the service does after that, and however its operations take turns. So if the initiation comes again,
with some of its processors, then nothing is done, and nobody asks for the scan. Main statement:
`replay_harmless`.
-/

namespace Dossier.Service

open Relation (ReflTransGen)

variable {π ε ε' α β : Type}

/-- Whether each of some processors has a row for a document. -/
def Covers (documentId : Uuid) (processorIds : List String) (rows : List Row) : Prop :=
  ∀ id ∈ processorIds, rows.any (Row.isOf documentId id) = true

/-- Whether a condition on the rows of a store holds on when rows are added. -/
def Stable (p : List Row → Prop) : Prop :=
  ∀ rows more, p rows → p (rows ++ more)

theorem stable_covers (documentId : Uuid) (processorIds : List String) :
    Stable (Covers documentId processorIds) := by
  intro rows more covers id listed
  rw [List.any_append, covers id listed, Bool.true_or]

theorem missing_of_covers {documentId : Uuid} {processorIds : List String} {rows : List Row}
    (covers : Covers documentId processorIds rows) : missing rows documentId processorIds = [] := by
  rw [missing, List.filter_eq_nil_iff]
  intro id listed
  rw [covers id listed]
  decide

namespace Task

/-- Whether a task that goes well comes to a goal, when rows are added by others between its deeds. -/
def Secures (goal : α → List Row → Prop) : Task π ε α → List Row → Prop
  | .done (.ok a), rows => goal a rows
  | .done (.error _), _ => True
  | .doing deed rest, rows => ∀ s before after, rows <+: before → s.store = .memory before →
      (deed.perform s).2.store = .memory after → (rest (deed.perform s).1).Secures goal after

/-- Whether a task goes well and does nothing, when rows are added by others between its deeds. -/
def Idles (goal : α → Prop) : Task π ε α → List Row → Prop
  | .done (.ok a), _ => goal a
  | .done (.error _), _ => False
  | .doing deed rest, rows => ∀ s before, rows <+: before → s.store = .memory before →
      Effect.nothing.Leads s (deed.perform s).2 ∧ (rest (deed.perform s).1).Idles goal before

variable {goal : α → List Row → Prop} {rows more : List Row} {task : Task π ε α}

theorem Secures.grow (stable : ∀ a, Stable (goal a)) (secures : task.Secures goal rows)
    (longer : rows <+: more) : task.Secures goal more := by
  cases task with
  | done outcome =>
      cases outcome with
      | ok a =>
          obtain ⟨added, rfl⟩ := longer
          exact stable a rows added secures
      | error failure => trivial
  | doing deed rest =>
      intro s before after later held left
      exact secures s before after (longer.trans later) held left

/-- The next deed leaves a task that comes to the same goal. -/
theorem Secures.proceed (secures : task.Secures goal rows) {s : Service} {after : List Row}
    (held : s.store = .memory rows) (left : (task.proceed s).2.store = .memory after) :
    (task.proceed s).1.Secures goal after := by
  cases task with
  | done outcome =>
      have same : Store.memory rows = .memory after := held.symm.trans left
      cases same
      exact secures
  | doing deed rest => exact secures s rows after (List.prefix_refl rows) held left

theorem proceed_grows (task : Task π ε α) {s : Service} (held : s.store = .memory rows) :
    ∃ more, (task.proceed s).2.store = .memory (rows ++ more) := by
  cases task with
  | done outcome => exact ⟨[], by rw [List.append_nil]; exact held⟩
  | doing deed rest => exact deed.grows held

theorem Secures.bind {next : α → Task π ε β} {aim : β → List Row → Prop}
    (secures : task.Secures goal rows) (further : ∀ a rows, goal a rows → (next a).Secures aim rows) :
    (task >>= next).Secures aim rows := by
  induction task generalizing rows with
  | done outcome =>
      cases outcome with
      | ok a => exact further a rows secures
      | error failure => trivial
  | doing deed rest ih =>
      intro s before after later held left
      exact ih _ (secures s before after later held left)

theorem Secures.imp {aim : α → List Row → Prop} (secures : task.Secures goal rows)
    (implies : ∀ a rows, goal a rows → aim a rows) : task.Secures aim rows := by
  induction task generalizing rows with
  | done outcome =>
      cases outcome with
      | ok a => exact implies a rows secures
      | error failure => trivial
  | doing deed rest ih =>
      intro s before after later held left
      exact ih _ (secures s before after later held left)

/-- What holds of the rows before a task, and holds on when rows are added, holds after it as well. -/
theorem Secures.and_stable {p : List Row → Prop} (secures : task.Secures goal rows)
    (stable : Stable p) (holds : p rows) : task.Secures (fun a rows => goal a rows ∧ p rows) rows := by
  induction task generalizing rows with
  | done outcome =>
      cases outcome with
      | ok a => exact ⟨secures, holds⟩
      | error failure => trivial
  | doing deed rest ih =>
      intro s before after later held left
      have next := secures s before after later held left
      obtain ⟨added, grown⟩ := deed.grows held
      obtain ⟨others, rfl⟩ := later
      rw [grown] at left
      cases left
      exact ih _ next (stable _ _ (stable _ _ holds))

theorem secures_true (task : Task π ε α) (rows : List Row) :
    task.Secures (fun _ _ => True) rows := by
  induction task generalizing rows with
  | done outcome =>
      cases outcome with
      | ok a => trivial
      | error failure => trivial
  | doing deed rest ih =>
      intro s before after _ _ _
      exact ih _ after

theorem secures_stable {p : List Row → Prop} (stable : Stable p) (task : Task π ε α) (holds : p rows) :
    task.Secures (fun _ => p) rows :=
  ((secures_true task rows).and_stable stable holds).imp fun _ _ both => both.2

variable (c : Collaborators π) (documentId : Uuid)

theorem ask_secures (processorIds : List String) (rows : List Row) :
    (ask c (·.findFrom documentId processorIds)).Secures
      (fun existing rows => ∀ row ∈ existing, row.documentId = documentId ∧ row ∈ rows) rows := by
  intro s before after _ held left
  cases fault : c.findFault s.finds with
  | some failure =>
      simp only [Deed.perform, ExceptT.run, Service.ask, fault]
      trivial
  | none =>
      have asked := ask_of_answers fault (·.findFrom documentId processorIds)
      simp only [Deed.perform, ExceptT.run, asked] at left ⊢
      rw [held] at left ⊢
      cases left
      intro row found
      obtain ⟨member, chosen⟩ := List.mem_filter.mp found
      rw [Bool.and_eq_true, beq_iff_eq] at chosen
      exact ⟨chosen.1, member⟩

theorem save_secures (row : Row) (rows : List Row) :
    (save c row).Secures (fun _ rows => row ∈ rows) rows := by
  intro s before after _ held left
  rcases save_cases c row s with ⟨-, t, saved, leads, -⟩ | ⟨-, failure, t, failed, -⟩
  · simp only [Deed.perform, ExceptT.run, saved] at left ⊢
    have kept := leads.store
    rw [held, Store.saveAll_memory, left] at kept
    cases kept
    exact List.mem_append_right _ (List.mem_singleton_self row)
  · simp only [Deed.perform, ExceptT.run, failed]
    trivial

/-- Processors that are left out have rows. -/
theorem filter_secures (processorIds : List String) (again : Bool) (rows : List Row) :
    (filter c documentId processorIds again).Secures
      (fun left rows => ∀ id ∈ processorIds, id ∈ left ∨ rows.any (Row.isOf documentId id) = true)
      rows := by
  unfold filter
  cases again with
  | true => exact fun id listed => .inl listed
  | false =>
      refine (ask_secures c documentId processorIds rows).bind fun existing rows found => ?_
      have stable : Stable fun rows => ∀ row ∈ existing, row.documentId = documentId ∧ row ∈ rows :=
        fun rows more found row member =>
          ⟨(found row member).1, List.mem_append_left more (found row member).2⟩
      refine (secures_stable stable (tellProcessed documentId existing) found).bind ?_
      intro _ rows found id listed
      cases known : existing.any (·.processorId == id) with
      | false => exact .inl (List.mem_filter.mpr ⟨listed, by simp [known]⟩)
      | true =>
          obtain ⟨row, member, named⟩ := List.any_eq_true.mp known
          obtain ⟨document, held⟩ := found row member
          exact .inr (List.any_eq_true.mpr ⟨row, held, by simpa [Row.isOf, document] using named⟩)

theorem request_secures (processorId : String) (rows : List Row) :
    (request c documentId processorId).Secures (fun _ => Covers documentId [processorId]) rows := by
  refine (secures_true _ rows).bind fun _ rows _ => ?_
  refine (secures_true _ rows).bind fun now rows _ => ?_
  refine (save_secures c (.pending documentId processorId now) rows).bind fun _ rows saved => ?_
  refine secures_stable (stable_covers documentId [processorId]) _ ?_
  intro id listed
  rw [List.mem_singleton.mp listed]
  exact List.any_eq_true.mpr ⟨_, saved, by simp [Row.isOf, Row.pending]⟩

theorem enqueue_secures (processorIds : List String) (rows : List Row) :
    (enqueue c documentId processorIds).Secures (fun _ => Covers documentId processorIds) rows := by
  induction processorIds generalizing rows with
  | nil => exact fun id listed => absurd listed List.not_mem_nil
  | cons processorId rest ih =>
      refine (request_secures c documentId processorId rows).bind fun _ rows first => ?_
      refine ((ih rows).and_stable (stable_covers documentId [processorId]) first).imp ?_
      rintro _ rows ⟨others, first⟩ id listed
      rcases List.mem_cons.mp listed with rfl | listed
      · exact first id (List.mem_singleton_self id)
      · exact others id listed

/-- Processors that are let pass get rows, and those that were left out have theirs. -/
theorem grant_secures {processorIds left : List String} {rows : List Row}
    (stable : Stable fun rows => ∀ id ∈ processorIds, id ∈ left ∨ rows.any (Row.isOf documentId id) = true)
    (known : ∀ id ∈ processorIds, id ∈ left ∨ rows.any (Row.isOf documentId id) = true)
    (answer : Except ScanFailure ScanStatus) :
    (grant c documentId left answer).Secures (fun _ => Covers documentId processorIds) rows := by
  cases answer with
  | error failure => trivial
  | ok status =>
      cases status with
      | failedScan => exact (secures_true _ rows).bind fun _ _ _ => trivial
      | ready | awaitingScan =>
          refine (secures_stable stable _ known).bind fun _ rows known => ?_
          refine ((enqueue_secures c documentId left rows).and_stable stable known).imp ?_
          rintro _ rows ⟨covers, known⟩ id listed
          exact (known id listed).elim (covers id) fun found => found

/-- An initiation that goes well leaves a row for each of its processors. -/
theorem initiate_secures (processorIds : List String) (again : Bool) (rows : List Row) :
    (initiate c documentId processorIds again).Secures (fun _ => Covers documentId processorIds)
      rows := by
  refine (filter_secures c documentId processorIds again rows).bind fun left rows known => ?_
  have stable : Stable fun rows =>
      ∀ id ∈ processorIds, id ∈ left ∨ rows.any (Row.isOf documentId id) = true := by
    intro rows more known id listed
    rcases known id listed with kept | found
    · exact .inl kept
    · exact .inr (by rw [List.any_append, found, Bool.true_or])
  unfold Procedure.clear
  split
  · rename_i none
    refine (secures_stable stable _ known).imp fun _ rows known id listed => ?_
    rw [List.isEmpty_iff.mp none] at known
    exact (known id listed).resolve_left List.not_mem_nil
  · exact grant_secures c documentId stable known (c.scan documentId)

variable {c documentId}

theorem Idles.bind {goal : α → Prop} {aim : β → Prop} {next : α → Task π ε β}
    (idles : task.Idles goal rows)
    (further : ∀ a more, goal a → rows <+: more → (next a).Idles aim more) :
    (task >>= next).Idles aim rows := by
  induction task generalizing rows with
  | done outcome =>
      cases outcome with
      | ok a => exact further a rows idles (List.prefix_refl rows)
      | error failure => exact idles.elim
  | doing deed rest ih =>
      intro s before later held
      obtain ⟨nothing, idles⟩ := idles s before later held
      exact ⟨nothing, ih _ idles fun a more reached longer => further a more reached (later.trans longer)⟩

theorem tell_idles (level : LogLevel) (message : String) (fields : List (String × String))
    (rows : List Row) : (tell level message fields : Task π ε Unit).Idles (fun _ => True) rows :=
  fun _ _ _ _ => ⟨leads_log _, trivial⟩

theorem tellProcessed_idles (existing rows : List Row) :
    (tellProcessed documentId existing : Task π ε Unit).Idles (fun _ => True) rows := by
  unfold tellProcessed Procedure.tellProcessed
  split
  · trivial
  · exact tell_idles _ _ _ rows

theorem filter_idles (finds : ∀ n, c.findFault n = none) {processorIds : List String}
    {rows : List Row} (covers : Covers documentId processorIds rows) :
    (filter c documentId processorIds false).Idles (· = []) rows := by
  have asked : (ask c (·.findFrom documentId processorIds)).Idles
      (fun existing => ∀ id ∈ processorIds, existing.any (·.processorId == id) = true) rows := by
    intro s before later held
    have found : s.store.findFrom documentId processorIds = .ok (before.filter fun row =>
        row.documentId == documentId && processorIds.contains row.processorId) := by
      rw [held]
      rfl
    have asked := ask_of_answers (finds s.finds) (·.findFrom documentId processorIds)
    rw [found] at asked
    simp only [Deed.perform, ExceptT.run, asked]
    refine ⟨{ Effect.Leads.refl s with }, fun id listed => ?_⟩
    obtain ⟨others, rfl⟩ := later
    have covered := stable_covers documentId processorIds rows others covers id listed
    obtain ⟨row, member, named⟩ := List.any_eq_true.mp covered
    rw [Row.isOf, Bool.and_eq_true, beq_iff_eq, beq_iff_eq] at named
    obtain ⟨document, named⟩ := named
    exact List.any_eq_true.mpr ⟨row, List.mem_filter.mpr ⟨member, by simp [document, named, listed]⟩,
      by simp [named]⟩
  refine asked.bind fun existing more found _ => ?_
  refine (tellProcessed_idles existing more).bind fun _ _ _ _ => ?_
  exact List.filter_eq_nil_iff.mpr fun id listed => by simp [found id listed]

/-- An initiation whose processors have rows goes well and does nothing. -/
theorem initiate_idles (finds : ∀ n, c.findFault n = none) {processorIds : List String}
    {rows : List Row} (covers : Covers documentId processorIds rows) :
    (initiate c documentId processorIds false).Idles (fun _ => True) rows := by
  refine (filter_idles finds covers).bind fun left more none _ => ?_
  subst none
  exact tell_idles _ _ _ more

end Task

/-- An operation that was begun, with what is left to do of it. -/
inductive Job (π : Type) : Type 1 where
  | initiation (documentId : Uuid) (processorIds : List String) (again : Bool)
      (left : Task π ServiceFailure Unit)
  | execution (documentId : Uuid) (processorId : String) (left : Task π ProcessingFailure Row)
  | saving (row : Row) (left : Task π ServiceFailure Unit)

namespace Job

/-- Whether nothing of an operation is done yet. An execution may be divided into deeds in any way. -/
inductive IsNew : Job π → Prop
  | initiation (c : Collaborators π) (documentId : Uuid) (processorIds : List String) (again : Bool) :
      IsNew (.initiation documentId processorIds again
        (.initiate c documentId processorIds again))
  | execution {c : Collaborators π} {answer : π → Uuid → Except ProcessorFailure Row}
      {documentId : Uuid} {processorId : String} {left : Task π ProcessingFailure Row}
      (whole : left.run = execute c answer documentId processorId) :
      IsNew (.execution documentId processorId left)
  | saving (c : Collaborators π) (row : Row) : IsNew (.saving row (.save c row))

/-- The operation after its next deed, and the service after that deed. -/
def proceed : Job π → Service → Job π × Service
  | .initiation documentId processorIds again left, s =>
      (.initiation documentId processorIds again (left.proceed s).1, (left.proceed s).2)
  | .execution documentId processorId left, s =>
      (.execution documentId processorId (left.proceed s).1, (left.proceed s).2)
  | .saving row left, s => (.saving row (left.proceed s).1, (left.proceed s).2)

/-- Whether an initiation leaves a row for each of its processors if it goes well. -/
def Secures : Job π → List Row → Prop
  | .initiation documentId processorIds _ left, rows =>
      left.Secures (fun _ => Covers documentId processorIds) rows
  | .execution _ _ _, _ | .saving _ _, _ => True

variable {job : Job π} {rows more : List Row} {s : Service}

theorem IsNew.secures (new : job.IsNew) (rows : List Row) : job.Secures rows := by
  cases new with
  | initiation c documentId processorIds again =>
      exact Task.initiate_secures c documentId processorIds again rows
  | execution | saving => trivial

theorem Secures.grow (secures : job.Secures rows) (longer : rows <+: more) : job.Secures more := by
  cases job with
  | initiation documentId processorIds again left =>
      exact Task.Secures.grow (fun _ => stable_covers documentId processorIds) secures longer
  | execution | saving => trivial

theorem Secures.proceed (secures : job.Secures rows) (held : s.store = .memory rows)
    (left : (job.proceed s).2.store = .memory more) : (job.proceed s).1.Secures more := by
  cases job with
  | initiation documentId processorIds again rest => exact Task.Secures.proceed secures held left
  | execution | saving => trivial

theorem proceed_grows (job : Job π) (held : s.store = .memory rows) :
    ∃ more, (job.proceed s).2.store = .memory (rows ++ more) := by
  cases job with
  | initiation _ _ _ left | execution _ _ left | saving _ left =>
      exact Task.proceed_grows left held

end Job

/-- A service, with the operations that were begun. -/
structure Activity (π : Type) : Type 1 where
  service : Service
  jobs : List (Job π)

namespace Activity

/-- What can happen next. -/
inductive Step : Activity π → Activity π → Prop
  | begin {x : Activity π} {job : Job π} (new : job.IsNew) :
      Step x { x with jobs := x.jobs ++ [job] }
  | proceed {s : Service} {before after : List (Job π)} (job : Job π) :
      Step ⟨s, before ++ job :: after⟩ ⟨(job.proceed s).2, before ++ (job.proceed s).1 :: after⟩
  /-- Something else is done with the service that does not concern the store. -/
  | elsewhere {x : Activity π} {s : Service} (kept : s.store = x.service.store) :
      Step x { x with service := s }

/-- What holds of an activity with a store in memory that has some rows. -/
structure Secured (x : Activity π) (rows : List Row) : Prop where
  held : x.service.store = .memory rows
  jobs : ∀ job ∈ x.jobs, job.Secures rows

variable {x y : Activity π} {rows : List Row}

theorem Secured.step (secured : x.Secured rows) (step : Step x y) :
    ∃ more, y.Secured (rows ++ more) := by
  cases step with
  | begin new =>
      refine ⟨[], by rw [List.append_nil]; exact secured.held, ?_⟩
      rw [List.append_nil]
      intro job member
      rcases List.mem_append.mp member with old | added
      · exact secured.jobs job old
      · rw [List.mem_singleton.mp added]
        exact new.secures rows
  | @proceed s before after job =>
      obtain ⟨more, grown⟩ := job.proceed_grows secured.held
      have longer : rows <+: rows ++ more := List.prefix_append rows more
      refine ⟨more, grown, fun other member => ?_⟩
      rcases List.mem_append.mp member with old | member
      · exact (secured.jobs other (List.mem_append_left _ old)).grow longer
      · rcases List.mem_cons.mp member with rfl | old
        · exact (secured.jobs job (by simp)).proceed secured.held grown
        · exact (secured.jobs other (by simp [old])).grow longer
  | elsewhere kept =>
      refine ⟨[], ?_, ?_⟩
      · rw [List.append_nil]
        exact kept.trans secured.held
      · rw [List.append_nil]
        exact secured.jobs

theorem Secured.steps (secured : x.Secured rows) (steps : ReflTransGen Step x y) :
    ∃ more, y.Secured (rows ++ more) := by
  induction steps with
  | refl => exact ⟨[], by rwa [List.append_nil]⟩
  | tail _ step ih =>
      obtain ⟨more, secured⟩ := ih
      obtain ⟨further, secured⟩ := secured.step step
      exact ⟨more ++ further, by rwa [List.append_assoc] at secured⟩

/-- Once an initiation has gone well, one with some of its processors that comes later, at any time, goes well
too and does nothing, even if others take turns with it, and whatever the scan says by then. -/
theorem replay_harmless {start x y : Activity π} {stored : List Row}
    (memory : start.service.store = .memory stored) (idle : start.jobs = [])
    (reached : ReflTransGen Step start x) {documentId : Uuid} {processorIds : List String}
    {again : Bool} (well : .initiation documentId processorIds again (.done (.ok ())) ∈ x.jobs)
    (later : ReflTransGen Step x y) (c : Collaborators π) (finds : ∀ n, c.findFault n = none)
    (some : List String) (among : ∀ id ∈ some, id ∈ processorIds) :
    ∃ rows, y.service.store = .memory rows ∧
      (Task.initiate c documentId some false).Idles (fun _ => True) rows ∧
      ∃ t, Effect.nothing.Leads y.service t ∧
        ∀ scan, initiate { c with scan } documentId some false y.service = (.ok (), t) := by
  have begun : start.Secured stored := ⟨memory, by simp [idle]⟩
  obtain ⟨saved, secured⟩ := begun.steps reached
  have covered : Covers documentId processorIds (stored ++ saved) := secured.jobs _ well
  obtain ⟨more, secured⟩ := secured.steps later
  have covers : Covers documentId some (stored ++ saved ++ more) := fun id listed =>
    stable_covers documentId processorIds _ more covered id (among id listed)
  exact ⟨_, secured.held, Task.initiate_idles finds covers,
    initiate_processed secured.held (finds _) (missing_of_covers covers)⟩

theorem steps_run (job : Task π ε α → Job π) (moves : ∀ task s,
      (job task).proceed s = (job (task.proceed s).1, (task.proceed s).2))
    (task : Task π ε α) (s : Service) (jobs : List (Job π)) :
    ReflTransGen Step ⟨s, jobs ++ [job task]⟩
      ⟨(task.run s).2, jobs ++ [job (.done (task.run s).1)]⟩ := by
  induction task generalizing s with
  | done outcome => exact .refl
  | doing deed rest ih =>
      have first : Step ⟨s, jobs ++ [job (.doing deed rest)]⟩
          ⟨((job (.doing deed rest)).proceed s).2, jobs ++ [((job (.doing deed rest)).proceed s).1]⟩ :=
        .proceed _
      rw [moves] at first
      exact .head first (ih _ _)

theorem steps_initiate (c : Collaborators π) (documentId : Uuid) (processorIds : List String)
    (again : Bool) (s : Service) (jobs : List (Job π)) :
    ReflTransGen Step ⟨s, jobs⟩ ⟨(initiate c documentId processorIds again s).2,
      jobs ++ [.initiation documentId processorIds again
        (.done (initiate c documentId processorIds again s).1)]⟩ := by
  rw [← Task.run_initiate]
  exact .head (.begin (.initiation c documentId processorIds again))
    (steps_run (.initiation documentId processorIds again) (fun _ _ => rfl) _ s jobs)

theorem steps_execute (c : Collaborators π) (answer : π → Uuid → Except ProcessorFailure Row)
    (documentId : Uuid) (processorId : String) (s : Service) (jobs : List (Job π)) :
    ReflTransGen Step ⟨s, jobs⟩ ⟨(execute c answer documentId processorId s).2,
      jobs ++ [.execution documentId processorId
        (.done (execute c answer documentId processorId s).1)]⟩ := by
  obtain ⟨task, whole⟩ := Task.exists_task_execute c documentId answer processorId
  rw [← whole]
  exact .head (.begin (.execution whole))
    (steps_run (.execution documentId processorId) (fun _ _ => rfl) task s jobs)

/-- A document has failed its scan since two processors were requested for it, and an execution of one of them
was refused; the other is not requested again. -/
theorem replay_after_failed_scan :
    let c : Collaborators Endpoint := .reliable [] (fun _ => .ok .ready) dayClock
    let s := (initiate c ⟨1⟩ ["pages", "dates"] false { store := .empty }).2
    let t := (executeOver c (fun _ => .unreachable) ⟨1⟩ "pages" s).2
    ∃ u, Effect.nothing.Leads t u ∧
      initiate { c with scan := fun _ => .ok .failedScan } ⟨1⟩ ["dates"] false t = (.ok (), u) := by
  intro c s t
  let start : Service := { store := .empty }
  have memory : start.store = .memory [] := rfl
  obtain ⟨outcome, after, ends, ok, -⟩ := initiate_memory (c := c) (fun _ => rfl) rfl memory rfl
    (rfl : c.scan ⟨1⟩ = .ok .ready) ["pages", "dates"]
  have well : (initiate c ⟨1⟩ ["pages", "dates"] false start).1 = .ok () :=
    (congrArg Prod.fst ends).trans (ok (by decide))
  have requested := steps_initiate c ⟨1⟩ ["pages", "dates"] false start []
  rw [well] at requested
  obtain ⟨jobs, refused⟩ : ∃ jobs, ReflTransGen Step
      ⟨s, [] ++ [.initiation ⟨1⟩ ["pages", "dates"] false (.done (.ok ()))]⟩ ⟨t, jobs⟩ :=
    ⟨_, steps_execute c _ ⟨1⟩ "pages" s _⟩
  -- What follows holds of any such service, and evaluating this one takes long.
  clear_value t
  obtain ⟨rows, -, -, u, nothing, again⟩ := replay_harmless memory rfl requested
    (List.mem_singleton_self _) refused c (fun _ => rfl) ["dates"] (by simp)
  exact ⟨u, nothing, again fun _ => .ok .failedScan⟩

end Activity

end Dossier.Service
