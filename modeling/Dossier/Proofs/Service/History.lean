import Dossier.Proofs.Row.History
import Dossier.Proofs.Service.Replay
import Dossier.Proofs.Service.Results
import Mathlib

/-! # The history of a document

A store in memory has the rows whose savings went well, in that order, however operations take turns. So the rows
of a document are listed as their history, and a later list has all rows of an earlier one in their order. Main
statement: `history_listed`.
-/

namespace Dossier.Service

open Relation (ReflTransGen)

variable {π ε α β : Type}

/-- The row of a saving that goes well. -/
def Deed.adds : Deed π α → Service → List Row
  | .save c row, s => match (Service.save c row s).1 with
      | .ok () => [row]
      | .error _ => []
  | .tell .., _ | .readClock _, _ | .ask .., _ | .publish .., _ => []

def Task.adds : Task π ε α → Service → List Row
  | .done _, _ => []
  | .doing deed _, s => deed.adds s

def Job.adds : Job π → Service → List Row
  | .initiation _ _ _ left, s => left.adds s
  | .execution _ _ left, s => left.adds s
  | .saving _ left, s => left.adds s

variable {s : Service} {rows : List Row}

theorem Deed.perform_store (deed : Deed π α) (held : s.store = .memory rows) :
    (deed.perform s).2.store = .memory (rows ++ deed.adds s) := by
  cases deed with
  | tell | readClock => exact held.trans (by rw [adds, List.append_nil])
  | save c row =>
      rcases save_cases c row s with ⟨-, t, saved, leads, -⟩ | ⟨-, failure, t, failed, leads⟩
      · have store := leads.store
        rw [held, Store.saveAll_memory] at store
        simp only [perform, ExceptT.run, adds, saved]
        exact (Except.ok.inj store).symm
      · have store := leads.store
        rw [held, Store.saveAll_memory] at store
        simp only [perform, ExceptT.run, adds, failed]
        exact (Except.ok.inj store).symm
  | ask c question =>
      obtain ⟨outcome, asked⟩ := ask_cases c question s
      rw [perform, ExceptT.run, asked, adds, List.append_nil]
      exact held
  | publish channel payload =>
      rcases publish_cases channel payload s with ⟨-, t, sent, leads⟩ | ⟨-, failed⟩
      · have none : (sending channel [.first payload]).rows = [] := by cases channel <;> rfl
        have store := leads.store
        rw [held, Store.saveAll_memory, none] at store
        rw [perform, ExceptT.run, sent, adds]
        exact (Except.ok.inj store).symm
      · rw [perform, ExceptT.run, failed, adds, List.append_nil]
        exact held

theorem Task.proceed_store (task : Task π ε α) (held : s.store = .memory rows) :
    (task.proceed s).2.store = .memory (rows ++ task.adds s) := by
  cases task with
  | done outcome => exact held.trans (by rw [adds, List.append_nil])
  | doing deed rest => exact deed.perform_store held

theorem Job.proceed_store (job : Job π) (held : s.store = .memory rows) :
    (job.proceed s).2.store = .memory (rows ++ job.adds s) := by
  cases job with
  | initiation _ _ _ left | execution _ _ left | saving _ left => exact left.proceed_store held

/-- An activity with the rows that were added to its store, the first one first. -/
structure Chronicle (π : Type) : Type 1 extends Activity π where
  added : List Row

namespace Chronicle

/-- What can happen next, and what is written down of it. -/
inductive Step : Chronicle π → Chronicle π → Prop
  | begin {x : Chronicle π} {job : Job π} (new : job.IsNew) :
      Step x { x with jobs := x.jobs ++ [job] }
  | proceed {s : Service} {before after : List (Job π)} {added : List Row} (job : Job π) :
      Step ⟨⟨s, before ++ job :: after⟩, added⟩
        ⟨⟨(job.proceed s).2, before ++ (job.proceed s).1 :: after⟩, added ++ job.adds s⟩
  | elsewhere {x : Chronicle π} {s : Service} (kept : s.store = x.service.store) :
      Step x { x with service := s }

/-- Whether the store has the rows that were added, and nothing else. -/
def Faithful (x : Chronicle π) : Prop :=
  x.service.store = .memory x.added

variable {x y : Chronicle π} {z : Activity π}

theorem Faithful.step (faithful : x.Faithful) (step : Step x y) : y.Faithful ∧ x.added <+: y.added := by
  cases step with
  | begin new => exact ⟨faithful, List.prefix_refl _⟩
  | proceed job => exact ⟨job.proceed_store faithful, List.prefix_append _ _⟩
  | elsewhere same => exact ⟨same.trans faithful, List.prefix_refl _⟩

theorem Faithful.steps (faithful : x.Faithful) (steps : ReflTransGen Step x y) :
    y.Faithful ∧ x.added <+: y.added := by
  induction steps with
  | refl => exact ⟨faithful, List.prefix_refl _⟩
  | tail _ step ih =>
      obtain ⟨faithful, before⟩ := ih
      obtain ⟨faithful, next⟩ := faithful.step step
      exact ⟨faithful, before.trans next⟩

/-- Whatever an activity does can be written down. -/
theorem exists_steps (steps : ReflTransGen Activity.Step x.toActivity z) :
    ∃ y, ReflTransGen Step x y ∧ y.toActivity = z := by
  induction steps with
  | refl => exact ⟨x, .refl, rfl⟩
  | tail _ step ih =>
      obtain ⟨⟨activity, added⟩, steps, rfl⟩ := ih
      cases step with
      | begin new => exact ⟨_, steps.tail (.begin new), rfl⟩
      | elsewhere kept => exact ⟨_, steps.tail (.elsewhere kept), rfl⟩
      | proceed job => exact ⟨_, steps.tail (.proceed job), rfl⟩

theorem Faithful.results (faithful : x.Faithful) {c : Collaborators π} (finds : ∀ n, c.findFault n = none)
    (documentId : Uuid) : (results c documentId x.service).1 =
      .ok (Row.sortByTime (x.added.filter (·.documentId == documentId))) := by
  have asked := ask_of_answers (finds x.service.finds) (·.find documentId)
  rw [faithful] at asked
  exact congrArg Prod.fst (bind_ok asked)

/-- The list of a document is the one that has all rows of it that were added, by their instants, and those of one
instant in the order in which they were added. It stays as it is but for the rows that come on. The
instant of a row whose timestamp was read is the one that the text names. -/
theorem history_listed {start x y : Chronicle π} (memory : start.service.store = .memory start.added)
    (reached : ReflTransGen Step start x) (later : ReflTransGen Step x y)
    {c : Collaborators π} (finds : ∀ n, c.findFault n = none) (documentId : Uuid) :
    ∃ earlier listed,
      (results c documentId x.service).1 = .ok earlier ∧
      (results c documentId y.service).1 = .ok listed ∧
      y.service.store = .memory y.added ∧ start.added <+: x.added ∧ x.added <+: y.added ∧
      Row.IsHistory (y.added.filter (·.documentId == documentId)) listed ∧
      (∀ other, Row.IsHistory (y.added.filter (·.documentId == documentId)) other → other = listed) ∧
      earlier.Sublist listed ∧
      ∀ row ∈ listed, ∀ text, Timestamp.readRelaxed text = .ok row.timestamp →
        ∃ fields rest, Timestamp.Reader.relaxedFields text.toList = .ok (fields, rest) ∧
          row.timestamp.instant = fields.universal := by
  have begun : start.Faithful := memory
  obtain ⟨early, first⟩ := begun.steps reached
  obtain ⟨late, more⟩ := early.steps later
  have history : Row.IsHistory (y.added.filter (·.documentId == documentId)) _ :=
    Row.isHistory_sortByTime _
  exact ⟨_, _, early.results finds documentId, late.results finds documentId, late, first, more,
    history, fun other too => history.unique too,
    Row.sortByTime_sublist (more.sublist.filter _),
    fun _ _ _ read => Timestamp.instant_of_readRelaxed read⟩

theorem steps_save (c : Collaborators π) (row : Row) (s : Service) (jobs : List (Job π)) :
    ReflTransGen Activity.Step ⟨s, jobs⟩
      ⟨(save c row s).2, jobs ++ [.saving row (.done (save c row s).1)]⟩ :=
  .head (.begin (.saving c row))
    (Activity.steps_run (.saving row) (fun _ _ => rfl) (.save c row) s jobs)

/-- A row that was recorded with a timestamp. -/
def recorded (processorId : String) (timestamp : Timestamp) : Row :=
  .complete ⟨1⟩ processorId .empty timestamp

/-- A row of a leap second is listed between those of the second before it and those of the next minute, whatever
zones their timestamps were written in, and rows of one instant stay in the order in which they came. -/
theorem leap_second_listed :
    let c : Collaborators Endpoint := .reliable [] (fun _ => .ok .ready) dayClock
    let next := recorded "next" ⟨⟨2017, 1, 1⟩, 0, 0⟩
    let leap := recorded "leap" ⟨⟨2016, 12, 31⟩, 86399, 1500000000⟩
    let before := recorded "before" ⟨⟨2016, 12, 31⟩, 86399, 900000000⟩
    let again := recorded "again" ⟨⟨2017, 1, 1⟩, 0, 0⟩
    let refused := Row.unprocessable ⟨1⟩ "pages" "processor not found" ⟨⟨2026, 1, 1⟩, 0, 0⟩
    Timestamp.readRelaxed "2017-01-01T00:00:00Z" = .ok next.timestamp ∧
    Timestamp.readRelaxed "2016-12-31T19:59:60.5-04:00" = .ok leap.timestamp ∧
    Timestamp.readRelaxed "2017-01-01T01:59:59.9+02:00" = .ok before.timestamp ∧
    Timestamp.readRelaxed "2016-12-31T19:00:00-05:00" = .ok again.timestamp ∧
    ∃ x y : Chronicle Endpoint, ReflTransGen Step ⟨⟨{ store := .empty }, []⟩, []⟩ x ∧
      ReflTransGen Step x y ∧ x.added = [next, leap] ∧ y.added = [next, leap, refused, before, again] ∧
      (results c ⟨1⟩ x.service).1 = .ok [leap, next] ∧
      (results c ⟨1⟩ y.service).1 = .ok [before, leap, next, again, refused] ∧
      Row.IsHistory y.added [before, leap, next, again, refused] := by
  intro c next leap before again refused
  have read : Timestamp.readRelaxed "2017-01-01T00:00:00Z" = .ok next.timestamp ∧
      Timestamp.readRelaxed "2016-12-31T19:59:60.5-04:00" = .ok leap.timestamp ∧
      Timestamp.readRelaxed "2017-01-01T01:59:59.9+02:00" = .ok before.timestamp ∧
      Timestamp.readRelaxed "2016-12-31T19:00:00-05:00" = .ok again.timestamp :=
    ⟨by cbv, by cbv, by cbv, by cbv⟩
  let s := (save c leap (save c next { store := .empty }).2).2
  let t := (save c again (save c before (executeOver c (fun _ => .unreachable) ⟨1⟩ "pages" s).2).2).2
  obtain ⟨jobs, reached⟩ : ∃ jobs, ReflTransGen Activity.Step ⟨{ store := .empty }, []⟩ ⟨s, jobs⟩ :=
    ⟨_, (steps_save c next _ []).trans (steps_save c leap _ _)⟩
  obtain ⟨more, later⟩ : ∃ more, ReflTransGen Activity.Step ⟨s, jobs⟩ ⟨t, more⟩ :=
    ⟨_, ((Activity.steps_execute c _ ⟨1⟩ "pages" s jobs).trans (steps_save c before _ _)).trans
      (steps_save c again _ _)⟩
  obtain ⟨⟨_, first⟩, reached, rfl⟩ :=
    exists_steps (x := ⟨⟨{ store := .empty }, []⟩, []⟩) reached
  obtain ⟨⟨_, all⟩, later, rfl⟩ := exists_steps (x := ⟨⟨s, jobs⟩, first⟩) later
  have begun : (⟨⟨{ store := .empty }, []⟩, []⟩ : Chronicle Endpoint).Faithful := rfl
  have early := (begun.steps reached).1
  have late := (early.steps later).1
  obtain rfl : [next, leap] = first := Store.memory.inj early
  obtain rfl : [next, leap, refused, before, again] = all := Store.memory.inj late
  obtain ⟨earlier, listed, first, second, -, -, -, history, -, -, -⟩ :=
    history_listed rfl reached later (c := c) (fun _ => rfl) ⟨1⟩
  have one : Except.ok earlier = .ok (Row.sortByTime [next, leap]) :=
    first.symm.trans (early.results (fun _ => rfl) ⟨1⟩)
  have two : Except.ok listed = .ok (Row.sortByTime [next, leap, refused, before, again]) :=
    second.symm.trans (late.results (fun _ => rfl) ⟨1⟩)
  have sorted : Row.sortByTime [next, leap] = [leap, next] := by cbv
  have sorted' : Row.sortByTime [next, leap, refused, before, again] =
      [before, leap, next, again, refused] := by
    simp +decide only [Row.sortByTime_cons_filter, Row.sortByTime_nil, next, leap, refused, before, again,
      recorded, Row.complete, Row.unprocessable, List.filter_nil, List.filter_cons, List.nil_append,
      List.cons_append, if_true, if_false]
  rw [sorted] at one
  rw [sorted'] at two
  cases one
  cases two
  exact ⟨read.1, read.2.1, read.2.2.1, read.2.2.2, _, _, reached, later, rfl, rfl, first, second, history⟩

end Chronicle

end Dossier.Service
