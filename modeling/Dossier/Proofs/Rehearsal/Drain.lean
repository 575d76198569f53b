import Dossier.Proofs.Rehearsal.Load

/-! # The end of a rehearsed shift

A crew stops by itself before its fuel is used up. By then its workers are done with all that was taken, and if nothing
more could come, all was taken. Main statement: `runRequests_drains`.
-/

namespace Dossier

open Service (Shift)
open Relation (ReflTransGen)

namespace Crew

variable {crew : Crew}

/-- Nobody is free while the crew holds a delivery. -/
theorem free_assign (held : crew.assign.held.isSome) : crew.assign.free = 0 := by
  unfold assign at held ⊢
  split
  · next d waits =>
    rw [waits] at held
    split
    · assumption
    · next permitted =>
      simp only [if_neg permitted] at held
      cases held
  · next none =>
    rw [none] at held
    cases held.symm.trans (congrArg Option.isSome none)

theorem free_fill {inbox : List Delivery} (free : crew.held = none) (held : (fill inbox crew).held.isSome) :
    (fill inbox crew).free = 0 := by
  induction inbox generalizing crew with
  | nil =>
      rw [fill, free] at held
      cases held
  | cons d rest ih =>
      simp only [fill] at held ⊢
      split
      · next waits => exact free_assign waits
      · next none =>
        rw [if_neg none] at held
        exact ih (Option.not_isSome_iff_eq_none.mp none) held

/-- All deliveries are taken if none is held in the end. -/
theorem inbox_fill {inbox : List Delivery} (none : (fill inbox crew).held = none) : (fill inbox crew).inbox = [] := by
  induction inbox generalizing crew with
  | nil => rfl
  | cons d rest ih =>
      simp only [fill] at none ⊢
      split
      · next waits =>
        rw [if_pos waits] at none
        rw [none] at waits
        cases waits
      · next free =>
        rw [if_neg free] at none
        exact ih none

theorem free_takeUp {told : Bool} (held : (crew.takeUp told).held.isSome) : (crew.takeUp told).free = 0 := by
  simp only [takeUp] at held ⊢
  split at held
  · next off =>
    rw [if_pos off]
    exact free_assign held
  · next on =>
    rw [if_neg on]
    simp only [Bool.or_eq_true, not_or] at on
    exact free_fill (Option.not_isSome_iff_eq_none.mp on.1.1) held

/-- Whoever accepts deliveries has taken all of them, unless one is held. -/
theorem inbox_takeUp (none : (crew.takeUp false).held = none) (accepting : (crew.takeUp false).accepting = true) :
    (crew.takeUp false).inbox = [] := by
  simp only [takeUp] at none accepting ⊢
  split at none
  · next off =>
    rw [if_pos off] at accepting
    rw [none, accepting] at off
    cases off
  · next on =>
    rw [if_neg on]
    exact inbox_fill none

/-- Whether a crew has come to its end. -/
structure Ended (crew : Crew) : Prop where
  accepting : crew.accepting = false
  held : crew.held = none
  ready : crew.ready = []
  busy : crew.busy = []

end Crew

namespace Rehearsal.Turn

variable {c : Collaborators Script} {q : QueueSettings} {s : Service} {x y : Turn}

/-- Nobody is free while a delivery is held. -/
theorem free_prepare (held : x.prepare.crew.held.isSome) : x.prepare.crew.free = 0 := by
  simp only [prepare] at held ⊢
  split at held
  · next quiet =>
    rw [if_pos quiet]
    rw [standDown_fst] at held ⊢
    exact Crew.free_takeUp held
  · next quiet =>
    rw [if_neg quiet]
    exact Crew.free_takeUp held

/-- Who holds no delivery and still accepts some waits for the deadline. -/
theorem deadline_prepare (none : x.prepare.crew.held = none) (accepting : x.prepare.crew.accepting = true) :
    x.prepare.deadline.isSome := by
  simp only [prepare] at none accepting ⊢
  split at accepting
  · rw [standDown_fst] at accepting
    cases accepting
  · next quiet =>
    rw [if_neg quiet] at none ⊢
    rw [none, accepting] at quiet
    cases told : x.told with
    | true =>
        rw [told] at quiet
        exact absurd rfl quiet
    | false =>
        rw [told] at none accepting quiet
        rw [Crew.inbox_takeUp none accepting] at quiet
        cases deadline : x.deadline with
        | none =>
            rw [deadline] at quiet
            exact absurd rfl quiet
        | some time => rfl

/-- The workers that are free and those that are not are as many as they are allowed to be. -/
theorem permits_of_reached (reached : x.Reached (.start q s) c q) :
    x.crew.free + (x.crew.ready.length + x.crew.busy.length) = q.permits := by
  obtain ⟨shift, steps, mirrors⟩ := reached
  have permits := ((Service.Manned.start c q s).steps steps).permits
  have running := mirrors.running.length_eq
  rw [List.length_map, List.nil_append, Crew.works, List.length_append, List.length_map, List.length_map] at running
  rw [← mirrors.free, ← running, permits]

/-- A crew for which nothing follows has ended. -/
theorem ended_of_none (reached : x.prepare.Reached (.start q s) c q) (none : x.prepare.next? c q = none) :
    x.prepare.crew.Ended := by
  unfold next? at none
  split at none
  · cases none
  · next off =>
    simp only [Bool.or_eq_true, not_or, Bool.not_eq_true, Bool.not_eq_false', List.isEmpty_iff] at off
    split at none
    · next idle =>
      simp only [Bool.and_eq_true, Bool.not_eq_true', List.isEmpty_iff, Option.isNone_iff_eq_none] at idle
      exact ⟨idle.1.1, idle.2, off.1, idle.1.2⟩
    · have times := List.min?_eq_none_iff.mp (Option.map_eq_none_iff.mp none)
      rw [List.append_eq_nil_iff, List.append_eq_nil_iff] at times
      have busy : x.prepare.crew.busy = [] := List.map_eq_nil_iff.mp times.1.1
      have deadline : x.prepare.deadline = Option.none := Option.toList_eq_nil_iff.mp times.2
      have held : x.prepare.crew.held = Option.none := by
        refine Option.not_isSome_iff_eq_none.mp fun held => ?_
        have permits := permits_of_reached reached
        rw [free_prepare held, off.1, busy] at permits
        exact absurd permits.symm (Nat.ne_of_gt (Service.one_le_permits q))
      refine ⟨?_, held, off.1, busy⟩
      refine Bool.eq_false_iff.mpr fun accepting => ?_
      have waits := deadline_prepare held accepting
      rw [deadline] at waits
      cases waits

/-- A crew with fuel enough works until it has ended, however much fuel that is. -/
theorem workOn_ends (reached : x.Reached (.start q s) c q) :
    ∃ y : Turn, (∀ fuel, x.load q < fuel → x.workOn c q fuel = (y.crew, y.scene)) ∧
      y.Reached (.start q s) c q ∧ y.crew.Ended ∧ (x.deadline = none → y.told = x.told) := by
  -- less is left to do after each turn, so fuel that is enough for a turn is enough for the next
  induction load : x.load q using Nat.strong_induction_on generalizing x with
  | _ load ih =>
      subst load
      have prepared := reached.prepare
      cases follows : x.prepare.next? c q with
      | none =>
          refine ⟨x.prepare, fun fuel enough => ?_, prepared, ended_of_none prepared follows, fun _ => prepare_told x⟩
          obtain ⟨fuel, rfl⟩ := Nat.exists_eq_add_of_lt enough
          rw [workOn_succ, follows]
      | some z =>
          have less := load_next follows
          rw [load_prepare] at less
          obtain ⟨y, works, ended, through, told⟩ := ih _ less (prepared.next follows) rfl
          refine ⟨y, fun fuel enough => ?_, ended, through, fun endless => ?_⟩
          · obtain ⟨fuel, rfl⟩ := Nat.exists_eq_add_of_lt enough
            rw [workOn_succ, follows]
            exact works _ (by omega)
          · obtain ⟨still, same⟩ := next_of_endless follows ((prepare_deadline x).trans endless)
            exact (told still).trans (same.trans (prepare_told x))

end Rehearsal.Turn

namespace Rehearsal

theorem sum_map_le {α : Type} {load : α → Nat} {most : Nat} (each : ∀ a, load a ≤ most) (as : List α) :
    (as.map load).sum ≤ as.length * most := by
  have bound := List.sum_le_card_nsmul (as.map load) most fun _ member => by
    obtain ⟨a, -, rfl⟩ := List.mem_map.mp member
    exact each a
  rw [List.length_map, smul_eq_mul] at bound
  exact bound

theorem waitingLoad_le (q : QueueSettings) (ds : List Delivery) :
    waitingLoad q ds ≤ ds.length * (3 * q.maxDeliveries + 3) := by
  refine sum_map_le (fun d => ?_) ds
  simp only [Delivery.left]
  omega

theorem agendaLoad_le (q : QueueSettings) (agenda : List Redelivery) :
    (agenda.map (·.load q)).sum ≤ agenda.length * (3 * q.maxDeliveries + 3) := by
  refine sum_map_le (fun r => ?_) agenda
  simp only [Redelivery.load, Delivery.left]
  split
  · omega
  · omega
  · omega

/-- The crew of a consumer that begins. -/
def Turn.first (q : QueueSettings) (stop : Stop) (r : Rehearsal) : Turn where
  deadline := match stop with
    | .close => none
    | .shutdown afterMs => some (r.service.now + afterMs)
  told := false
  crew := ⟨q.permits, (takeAll .requests r).1, none, [], [], 0, true, (takeAll .requests r).1⟩
  scene := (perform (Service.tell .info "Processing request consumer started"
    [("topic", Channel.requests.name), ("workers", Number.decimal q.permits)]) (takeAll .requests r).2).2

theorem runRequests_eq (c : Collaborators Script) (q : QueueSettings) (stop : Stop) (r : Rehearsal) :
    runRequests c q stop r =
      let ended := (Turn.first q stop r).workOn c q (busyness q r).1
      (ended.1.given, (perform (Service.tell .info "Processing request consumer stopped"
        [("topic", Channel.requests.name)]) ended.2).2) := by
  cases stop with
  | close => rfl
  | shutdown afterMs => rfl

/-- A consumer that begins has fuel enough. -/
theorem load_first (q : QueueSettings) (stop : Stop) (r : Rehearsal) :
    (Turn.first q stop r).load q < (busyness q r).1 := by
  have waiting : waitingLoad q r.service.topics.requests.waiting ≤
      r.service.topics.requests.sent.length * (3 * q.maxDeliveries + 3) := by
    refine (waitingLoad_le q _).trans (Nat.mul_le_mul_right _ ?_)
    rw [Topic.waiting, List.length_drop]
    exact Nat.sub_le _ _
  have agenda := agendaLoad_le q r.service.agenda
  have taken : (takeAll .requests r).2.service.topics.requests.waiting = [] := List.drop_length
  have crew : (Turn.first q stop r).crew.load q = waitingLoad q r.service.topics.requests.waiting := by
    simp only [Turn.first, Crew.load, Option.toList_none, waitingLoad, List.map_nil, List.sum_nil, Nat.add_zero]
    rfl
  have service : (Turn.first q stop r).scene.service.load q (Turn.first q stop r).deadline ≤
      (r.service.agenda.map (·.load q)).sum + 1 := by
    have scene : (Turn.first q stop r).scene.service.load q (Turn.first q stop r).deadline =
        (takeAll .requests r).2.service.load q (Turn.first q stop r).deadline := rfl
    rw [scene, Service.load, taken]
    refine Nat.add_le_add_left ?_ _
    split
    · exact Nat.le_refl _
    · exact Nat.zero_le _
  have load : (Turn.first q stop r).load q ≤
      (r.service.topics.requests.sent.length + r.service.agenda.length) * (3 * q.maxDeliveries + 3) + 1 := by
    rw [Turn.load, crew, Nat.add_mul]
    omega
  have fuel : (busyness q r).1 = 4 * (r.service.topics.requests.sent.length +
      r.service.topics.events.sent.length + r.service.agenda.length + 2) * (q.maxDeliveries + 2) := rfl
  rw [fuel]
  refine Nat.lt_of_le_of_lt load ?_
  nlinarith

theorem reached_first (c : Collaborators Script) (q : QueueSettings) (stop : Stop) (r : Rehearsal) :
    (Turn.first q stop r).Reached (.start q r.service) c q := by
  let waiting := (takeAll .requests r).1
  let x : Shift Script :=
    { Shift.start q (Turn.first q stop r).scene.service with inbox := waiting, arrived := waiting }
  have given : ReflTransGen (Shift.Step c q) (.start q r.service) x :=
    .head (.outside _ (Turn.first q stop r).scene.service) (.single (.arrive rfl waiting))
  cases stop with
  | close =>
      exact ⟨_, given.tail (.close x), {
        service := rfl, stage := rfl, told := rfl, free := rfl, inbox := rfl, arrived := rfl, running := .refl _
        opened := fun some => nomatch some
        closed := fun _ => .inr rfl
        accepting := fun held => nomatch held }⟩
  | shutdown afterMs =>
      exact ⟨x, given, {
        service := rfl, stage := rfl, told := rfl, free := rfl, inbox := rfl, arrived := rfl, running := .refl _
        opened := fun _ => rfl
        closed := fun none => nomatch none
        accepting := fun held => nomatch held }⟩

/-- A consumer in a rehearsal works a shift to its end, and does not depend on its fuel: in the end it holds no
delivery, all its permits are back, and if it was not told to stop nothing is left of what it was given. -/
theorem runRequests_drains (c : Collaborators Script) (q : QueueSettings) (stop : Stop) (r : Rehearsal) :
    ∃ crew scene,
      (∀ fuel, (busyness q r).1 ≤ fuel → (Turn.first q stop r).workOn c q fuel = (crew, scene)) ∧
      runRequests c q stop r = (crew.given, (perform (Service.tell .info "Processing request consumer stopped"
        [("topic", Channel.requests.name)]) scene).2) ∧
      crew.Ended ∧ crew.free = q.permits ∧ (stop = .close → crew.inbox = []) ∧
      ∃ x : Shift Script, ReflTransGen (Shift.Step c q) (.start q r.service) x ∧ x.stage = .returned ∧
        x.service = scene.service ∧ x.arrived = crew.given ∧ x.inbox = crew.inbox := by
  have reached := reached_first c q stop r
  obtain ⟨y, works, ended, through, told⟩ := Turn.workOn_ends reached
  have permits := Turn.permits_of_reached ended
  rw [through.ready, through.busy] at permits
  obtain ⟨x, steps, mirrors⟩ := ended
  have stage : x.stage = .draining := by
    rw [mirrors.stage, Crew.stage, through.held, through.accepting]
    rfl
  have idle : x.running = [] := by
    have none := mirrors.running
    rw [List.nil_append, Crew.works, through.ready, through.busy] at none
    exact List.map_eq_nil_iff.mp none.eq_nil
  have manned := (Service.Manned.start c q r.service).steps steps
  obtain ⟨z, returns, returned, service, arrived, inbox⟩ := Shift.returns (c := c) (q := q) stage idle
  refine ⟨y.crew, y.scene, fun fuel enough => works fuel ((load_first q stop r).trans_le enough), ?_, through, permits,
    fun close => ?_, z, steps.trans returns, returned, service.trans mirrors.service,
    arrived.trans mirrors.arrived, inbox.trans mirrors.inbox⟩
  · rw [runRequests_eq, works _ (load_first q stop r)]
  · subst close
    rw [← mirrors.inbox]
    exact (manned.quits (by rw [stage]; rfl) (mirrors.told.trans (told rfl))).2

end Rehearsal

end Dossier
