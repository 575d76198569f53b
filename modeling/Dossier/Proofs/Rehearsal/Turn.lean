import Dossier.Proofs.Rehearsal.Crew

/-! # Turns of a crew

A crew works turn by turn: it takes up what it can, those workers begin that are ready or else time passes, and what
has come meanwhile is given to it. Each turn is a part of a shift of the consumer of requests. Main statements:
`Turn.workOn_succ` and `Turn.Reached.next`.
-/

namespace Dossier

open Service (Shift)

namespace Rehearsal

/-- A crew at work. -/
structure Turn where
  deadline : Option Nat
  told : Bool
  crew : Crew
  scene : Rehearsal

namespace Turn

variable {c : Collaborators Script} {q : QueueSettings} {x y : Turn}

/-- The crew works on. -/
def workOn (c : Collaborators Script) (q : QueueSettings) (fuel : Nat) (x : Turn) : Crew × Rehearsal :=
  Rehearsal.workOn c q fuel x.deadline x.told x.crew x.scene

/-- The crew has taken up what it can, and has stood down if nothing can come any more. -/
def prepare (x : Turn) : Turn :=
  let crew := x.crew.takeUp x.told
  if crew.accepting && (crew.held.isNone && (x.told || (x.deadline.isNone && crew.inbox.isEmpty))) then
    { x with crew := (standDown crew x.scene).1, scene := (standDown crew x.scene).2 }
  else { x with crew }

/-- Messages whose time has come are sent again, and the crew is given what has come. -/
def settle (x : Turn) : Turn :=
  let scene := (perform (Service.waitUntil x.scene.service.now) x.scene).2
  if x.deadline.isSome then
    let (news, scene) := takeAll .requests scene
    { x with
      crew := { x.crew with inbox := x.crew.inbox ++ news, given := x.crew.given ++ news }
      scene }
  else { x with scene }

/-- Those workers begin that are ready. -/
def start (c : Collaborators Script) (q : QueueSettings) (x : Turn) : Turn :=
  let (crew, scene) := forEach (begin c q) x.crew.ready { x.crew with ready := [] } x.scene
  { x with crew, scene }

/-- Time passes, and those workers go on who were waiting for what has come. -/
def passTo (c : Collaborators Script) (q : QueueSettings) (time : Nat) (x : Turn) : Turn :=
  let (ripe, busy) := x.crew.busy.partition (·.due ≤ time)
  let (crew, scene) := forEach (hear c q) ripe { x.crew with busy }
    { x.scene with service.now := max x.scene.service.now time }
  { deadline := if x.deadline == some time then none else x.deadline
    told := x.told || x.deadline == some time
    crew, scene }

/-- What follows when the crew has prepared, if anything does. -/
def next? (c : Collaborators Script) (q : QueueSettings) (x : Turn) : Option Turn :=
  if !x.crew.ready.isEmpty || x.scene.service.nextDue?.any (· ≤ x.scene.service.now) then
    some (x.start c q).settle
  else if !x.crew.accepting && x.crew.busy.isEmpty && x.crew.held.isNone then none
  else
    (least? (x.crew.busy.map Job.due ++ x.scene.service.nextDue?.toList ++ x.deadline.toList)).map
      fun time => (x.passTo c q time).settle

theorem workOn_settle (fuel : Nat) (x : Turn) :
    workOn.settleInstant c q fuel x.deadline x.told x.crew x.scene = x.settle.workOn c q fuel := by
  rw [workOn.settleInstant]
  simp only [settle, Turn.workOn]
  split
  · rfl
  · have same : { x.crew with inbox := x.crew.inbox ++ [], given := x.crew.given ++ [] } = x.crew := by
      simp only [List.append_nil]
    exact congrArg (fun crew => Rehearsal.workOn c q fuel x.deadline x.told crew _) same

theorem bind_of_either {α β : Type} (either : Bool) (one other : Scene α) (next : α → Scene β) (r : Rehearsal) :
    (if either then one >>= next else other >>= next) r =
      next ((if either then one else other) r).1 ((if either then one else other) r).2 := by
  cases either with
  | true => rfl
  | false => rfl

theorem prepare_deadline (x : Turn) : x.prepare.deadline = x.deadline := by
  simp only [prepare]
  split
  · rfl
  · rfl

theorem prepare_told (x : Turn) : x.prepare.told = x.told := by
  simp only [prepare]
  split
  · rfl
  · rfl

theorem settle_deadline (x : Turn) : x.settle.deadline = x.deadline := by
  simp only [settle]
  split
  · rfl
  · rfl

theorem settle_told (x : Turn) : x.settle.told = x.told := by
  simp only [settle]
  split
  · rfl
  · rfl

/-- Without a deadline the consumer is not told to stop. -/
theorem next_of_endless (follows : x.next? c q = some y) (endless : x.deadline = none) :
    y.deadline = none ∧ y.told = x.told := by
  unfold next? at follows
  split at follows
  · cases follows
    exact ⟨(settle_deadline _).trans endless, settle_told _⟩
  · split at follows
    · cases follows
    · obtain ⟨time, -, rfl⟩ := Option.map_eq_some_iff.mp follows
      rw [settle_deadline, settle_told]
      simp only [passTo, endless]
      exact ⟨rfl, Bool.or_false _⟩

/-- A crew prepares and does what follows, over and over. -/
theorem workOn_succ (fuel : Nat) (x : Turn) :
    x.workOn c q (fuel + 1) =
      match x.prepare.next? c q with
      | none => (x.prepare.crew, x.prepare.scene)
      | some y => y.workOn c q fuel := by
  have prepared : ((if (x.crew.takeUp x.told).accepting && ((x.crew.takeUp x.told).held.isNone &&
        (x.told || (x.deadline.isNone && (x.crew.takeUp x.told).inbox.isEmpty))) then
      standDown (x.crew.takeUp x.told) else pure (x.crew.takeUp x.told)) : Scene Crew) x.scene =
      (x.prepare.crew, x.prepare.scene) := by
    simp only [prepare]
    split
    · rfl
    · rfl
  rw [Turn.workOn, Rehearsal.workOn]
  refine (bind_of_either ..).trans ?_
  rw [prepared, ← prepare_deadline x, ← prepare_told x]
  generalize x.prepare = y
  by_cases goes : (!y.crew.ready.isEmpty || y.scene.service.nextDue?.any (· ≤ y.scene.service.now)) = true
  · rw [next?, if_pos goes]
    exact (congrFun (if_pos goes) y.scene).trans (workOn_settle fuel (y.start c q))
  · rw [next?, if_neg goes]
    refine (congrFun (if_neg goes) y.scene).trans ?_
    by_cases idle : (!y.crew.accepting && y.crew.busy.isEmpty && y.crew.held.isNone) = true
    · rw [if_pos idle, if_pos idle]
      rfl
    · rw [if_neg idle, if_neg idle]
      simp only [bind, StateT.bind, get, getThe, MonadStateOf.get, StateT.get, pure]
      cases least? (y.crew.busy.map Job.due ++ y.scene.service.nextDue?.toList ++ y.deadline.toList) with
      | none => rfl
      | some time => exact workOn_settle fuel (y.passTo c q time)

/-- Whether a shift that began so can become that of a crew at work. -/
def Reached (start : Shift Script) (c : Collaborators Script) (q : QueueSettings) (x : Turn) : Prop :=
  Enacted start c q [] x.deadline x.told x.crew x.scene.service

namespace Reached

variable {start : Shift Script} {c : Collaborators Script} {q : QueueSettings} {x y : Turn}

theorem prepare (reached : x.Reached start c q) : x.prepare.Reached start c q := by
  have taken : Enacted start c q [] x.deadline x.told (x.crew.takeUp x.told) x.scene.service :=
    Enacted.takeUp reached
  simp only [Turn.prepare]
  split
  · next quiet =>
    obtain ⟨accepting, quiet⟩ := Bool.and_eq_true_iff.mp quiet
    exact taken.standDown accepting quiet
  · exact taken

theorem settle (reached : x.Reached start c q) : x.settle.Reached start c q := by
  simp only [Turn.settle]
  split
  · next awaits => exact (Enacted.outside reached _).arrive _ awaits
  · exact Enacted.outside reached _

theorem begin (reached : x.Reached start c q) : (x.start c q).Reached start c q := by
  have begun : Enacted start c q (x.crew.ready.map (·.work c q) ++ []) x.deadline x.told
      { x.crew with ready := [] } x.scene.service :=
    Enacted.regroup reached (by simp only [Crew.works, List.nil_append, List.append_nil, List.map_nil]; exact .refl _)
  exact begun.forEach .begin

theorem passTo (time : Nat) (reached : x.Reached start c q) : (x.passTo c q time).Reached start c q := by
  simp only [Turn.passTo, List.partition_eq_filter_filter]
  refine Enacted.forEach .hear (((Enacted.ring time reached).regroup ?_).outside _)
  have busy := (List.filter_append_perm (fun job : Job => decide (job.due ≤ time)) x.crew.busy).symm
  simp only [Crew.works, List.nil_append, List.append_nil]
  refine List.perm_append_comm.trans ((busy.map _).append_right _ |>.trans ?_)
  simp only [List.map_append, List.append_assoc]
  exact List.perm_append_comm.append_left _

/-- What a crew does next that has prepared can happen in a shift. -/
theorem next (reached : x.Reached start c q) (follows : x.next? c q = some y) : y.Reached start c q := by
  unfold Turn.next? at follows
  split at follows
  · cases follows
    exact reached.begin.settle
  · split at follows
    · cases follows
    · obtain ⟨time, -, rfl⟩ := Option.map_eq_some_iff.mp follows
      exact (reached.passTo time).settle

end Reached

end Turn

end Rehearsal

end Dossier
