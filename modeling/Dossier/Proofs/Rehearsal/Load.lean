import Dossier.Proofs.Consumer.Dealing
import Dossier.Proofs.Rehearsal.Turn

/-! # What is left to do

With all that a crew does less is left to do: a message can only be sent again so often, and each time there are few
things to do with it. Main statement: `Turn.load_next`.
-/

namespace Dossier

/-- How much can still be done with a delivery after it was handled: each time that it is sent again, somebody begins
with it, and somebody hears a processor. -/
def Delivery.left (q : QueueSettings) (d : Delivery) : Nat := 3 * (q.maxDeliveries - d.attempt)

/-- How much is to be done for a message that waits to be sent again. -/
def Redelivery.load (q : QueueSettings) (r : Redelivery) : Nat :=
  match r.channel with
  | .requests => r.delivery.left q + 3
  | .completions | .events => 1

/-- How much is to be done for deliveries that nobody works on. -/
def waitingLoad (q : QueueSettings) (ds : List Delivery) : Nat := (ds.map (·.left q + 2)).sum

def Crew.load (q : QueueSettings) (crew : Crew) : Nat :=
  waitingLoad q crew.inbox + waitingLoad q crew.held.toList + waitingLoad q crew.ready +
    (crew.busy.map (·.delivery.left q + 1)).sum

/-- How much is to be done outside the crew. What is on the topic matters until the deadline. -/
def Service.load (q : QueueSettings) (deadline : Option Nat) (s : Service) : Nat :=
  (s.agenda.map (·.load q)).sum +
    if deadline.isSome then 1 + waitingLoad q s.topics.requests.waiting else 0

def Rehearsal.Turn.load (q : QueueSettings) (x : Rehearsal.Turn) : Nat :=
  x.crew.load q + x.scene.service.load q x.deadline

variable {q : QueueSettings} {deadline : Option Nat} {s t : Service} {d : Delivery}

theorem waitingLoad_append (q : QueueSettings) (ds more : List Delivery) :
    waitingLoad q (ds ++ more) = waitingLoad q ds + waitingLoad q more := by
  simp only [waitingLoad, List.map_append, List.sum_append]

theorem waitingLoad_singleton (q : QueueSettings) (d : Delivery) : waitingLoad q [d] = d.left q + 2 := by
  simp only [waitingLoad, List.map_cons, List.map_nil, List.sum_cons, List.sum_nil, Nat.add_zero]

/-- A delivery that may be sent again brings less with it than was left of it. -/
theorem load_again (few : d.attempt < q.maxDeliveries) (due : Nat) :
    Redelivery.load q ⟨due, .requests, d.again⟩ = d.left q := by
  simp only [Redelivery.load, Delivery.left, Delivery.again]
  omega

theorem RequestConsumer.Deals.load (deals : Deals q d s t) : t.load q deadline ≤ s.load q deadline + d.left q := by
  rw [Service.load, Service.load, deals.requests]
  rcases deals.agenda with same | ⟨few, due, more⟩
  · rw [same]
    omega
  · rw [more, List.map_append, List.sum_append, List.map_singleton, List.sum_singleton, load_again few]
    omega

namespace Rehearsal

variable {c : Collaborators Script} {crew : Crew} {r : Rehearsal}

/-- Who has heard a processor has less to do. -/
theorem load_hear (c : Collaborators Script) (crew : Crew) (job : Job) (r : Rehearsal) :
    (hear c q crew job r).1.load q + (hear c q crew job r).2.service.load q deadline + 1 ≤
      crew.load q + (job.delivery.left q + 1) + r.service.load q deadline := by
  cases answered : job.act.answer? job.request.documentId with
  | some answer =>
      have deals : Service.load q deadline
          (RequestConsumer.finish c q job.delivery job.processor job.request answer r.service).2 ≤ _ :=
        (RequestConsumer.deals_finish c job.processor job.request answer r.service).load
      simp only [hear, answered]
      change crew.load q + Service.load q deadline
        (RequestConsumer.finish c q job.delivery job.processor job.request answer r.service).2 + 1 ≤ _
      omega
  | none =>
      simp only [hear, answered]
      change crew.load q + r.service.load q deadline + 1 ≤ _
      omega

/-- So has who has begun. -/
theorem load_begin (c : Collaborators Script) (crew : Crew) (d : Delivery) (r : Rehearsal) :
    (begin c q crew d r).1.load q + (begin c q crew d r).2.service.load q deadline + 1 ≤
      crew.load q + (d.left q + 2) + r.service.load q deadline := by
  have deals : Service.load q deadline (RequestConsumer.start c q d r.service).2 ≤ _ :=
    (RequestConsumer.deals_start c r.service).load
  rcases started : RequestConsumer.start c q d r.service with ⟨receipt | ⟨processor, request⟩, t⟩
  · rw [started] at deals
    rw [begin_of_done crew started]
    change t.load q deadline ≤ _ at deals
    change crew.load q + t.load q deadline + 1 ≤ _
    omega
  · obtain ⟨rfl, -⟩ := Service.Work.request_of_calling started
    obtain ⟨due, act, called, begun | begun⟩ := begin_of_calling crew started
    · have heard : _ ≤ crew.load q + (d.left q + 1) + r.service.load q deadline :=
        load_hear c crew ⟨due, d, processor, request, act⟩ ⟨r.service, called⟩
      rw [begun]
      omega
    · rw [begun]
      simp only [Crew.load, List.map_append, List.map_cons, List.map_nil, List.sum_append, List.sum_cons,
        List.sum_nil]
      omega

theorem load_forEach {α : Type} {work : Crew → α → Scene Crew} {item : α → Nat}
    (each : ∀ crew x (r : Rehearsal), (work crew x r).1.load q + (work crew x r).2.service.load q deadline + 1 ≤
      crew.load q + item x + r.service.load q deadline) (xs : List α) (crew : Crew) (r : Rehearsal) :
    (forEach work xs crew r).1.load q + (forEach work xs crew r).2.service.load q deadline + xs.length ≤
      crew.load q + (xs.map item).sum + r.service.load q deadline := by
  induction xs generalizing crew r with
  | nil => exact Nat.le_refl _
  | cons x rest ih =>
      have first := each crew x r
      have others := ih (work crew x r).1 (work crew x r).2
      rw [List.map_cons, List.sum_cons, List.length_cons]
      change (forEach work rest (work crew x r).1 (work crew x r).2).1.load q +
        Service.load q deadline (forEach work rest (work crew x r).1 (work crew x r).2).2.service + _ ≤ _
      omega

end Rehearsal

namespace Service

theorem eq_nil_of_earliest? {agenda : List Redelivery} (none : earliest? agenda = none) : agenda = [] := by
  cases agenda with
  | nil => rfl
  | cons one rest =>
      rw [earliest?] at none
      split at none
      · cases none
      · split at none
        · cases none
        · cases none

theorem earliest?_perm {agenda others : List Redelivery} {r : Redelivery}
    (found : earliest? agenda = some (r, others)) : agenda.Perm (r :: others) := by
  induction agenda generalizing r others with
  | nil => cases found
  | cons one rest ih =>
      rw [earliest?] at found
      split at found
      · next none =>
        cases found
        rw [eq_nil_of_earliest? none]
      · next first left earliest =>
        split at found
        · cases found
          exact ((ih earliest).cons _).trans (.swap ..)
        · cases found
          exact .refl _

theorem waitingLoad_drop (q : QueueSettings) (n : Nat) (ds : List Delivery) :
    waitingLoad q (ds.drop n) ≤ waitingLoad q ds := by
  have whole := congrArg (waitingLoad q) (List.take_append_drop n ds)
  rw [waitingLoad_append] at whole
  omega

/-- Less is to be done when a message was sent again. -/
theorem load_resend (r : Redelivery) (s : Service) :
    (resend r s).2.load q deadline + 1 ≤ s.load q deadline + r.load q := by
  have one : 1 ≤ r.load q := by
    unfold Redelivery.load
    split
    · exact Nat.le_add_left _ _
    · exact Nat.le_refl _
    · exact Nat.le_refl _
  rcases resend_leads r s with leads | leads
  · cases reaches : r.channel with
    | requests =>
        have sent := leads.topics .requests
        rw [reaches] at sent
        have waiting : waitingLoad q (resend r s).2.topics.requests.waiting ≤
            waitingLoad q s.topics.requests.waiting + (r.delivery.left q + 2) := by
          have all : (resend r s).2.topics.requests.sent = s.topics.requests.sent ++ [r.delivery] :=
            Topic.sent_of_sendAll sent
          have taken : (resend r s).2.topics.requests.taken = s.topics.requests.taken :=
            Topic.taken_of_sendAll sent
          rw [Topic.waiting, all, taken, List.drop_append, waitingLoad_append]
          exact Nat.add_le_add_left ((waitingLoad_drop ..).trans (waitingLoad_singleton ..).le) _
        have load : r.load q = r.delivery.left q + 3 := by rw [Redelivery.load, reaches]
        rw [Service.load, Service.load, leads.agenda]
        split
        · omega
        · omega
    | completions | events =>
        have same : (resend r s).2.topics.get .requests = s.topics.get .requests :=
          leads.untouched (by rw [reaches]; rfl)
        change (resend r s).2.topics.requests = s.topics.requests at same
        rw [Service.load, Service.load, leads.agenda, same]
        omega
  · rw [Service.load, Service.load, leads.agenda, leads.unchanged.2]
    omega

/-- The first message of the agenda is sent again and less is to be done, if its time has come. -/
theorem resendNext_cases (q : QueueSettings) (deadline : Option Nat) (time : Nat) (s : Service) :
    (∃ t, resendNext time s = (true, t) ∧ t.load q deadline < s.load q deadline) ∨
    (s.nextDue?.any (· ≤ time) = false ∧ resendNext time s = (false, s)) := by
  cases found : earliest? s.agenda with
  | none =>
      right
      simp only [nextDue?, resendNext, bind, StateT.bind, get, getThe, MonadStateOf.get, StateT.get, pure, found]
      exact ⟨rfl, rfl⟩
  | some next =>
      obtain ⟨r, others⟩ := next
      simp only [nextDue?, resendNext, bind, StateT.bind, get, getThe, MonadStateOf.get, StateT.get, pure, found]
      by_cases come : r.due ≤ time
      · left
        refine ⟨(resend r { s with agenda := others, now := max s.now r.due }).2, congrFun (if_pos come) s, ?_⟩
        have agenda : (s.agenda.map (·.load q)).sum = r.load q + (others.map (·.load q)).sum := by
          rw [((earliest?_perm found).map _).sum_eq, List.map_cons, List.sum_cons]
        have before : s.load q deadline =
            r.load q + Service.load q deadline { s with agenda := others, now := max s.now r.due } := by
          simp only [Service.load, agenda, Nat.add_assoc]
        have sent : _ + 1 ≤ Service.load q deadline _ + r.load q :=
          load_resend r { s with agenda := others, now := max s.now r.due }
        omega
      · right
        refine ⟨?_, congrFun (if_neg come) s⟩
        simp only [Option.map_some, Option.any_some, come, decide_false]

theorem load_resendUntil (time count : Nat) (s : Service) :
    (resendUntil time count s).2.load q deadline ≤ s.load q deadline := by
  induction count generalizing s with
  | zero => exact Nat.le_refl _
  | succ count ih =>
      simp only [resendUntil, bind, StateT.bind]
      rcases resendNext_cases q deadline time s with ⟨t, sent, less⟩ | ⟨-, none⟩
      · rw [sent]
        exact (ih t).trans less.le
      · rw [none]
        exact Nat.le_refl _

theorem load_waitUntil (time : Nat) (s : Service) : (waitUntil time s).2.load q deadline ≤ s.load q deadline :=
  load_resendUntil time s.agenda.length s

/-- If a message is due, something is done by waiting for it. -/
theorem load_waitUntil_of_due {time : Nat} (due : s.nextDue?.any (· ≤ time) = true) :
    (waitUntil time s).2.load q deadline < s.load q deadline := by
  have waits : (waitUntil time s).2.load q deadline =
      (resendUntil time s.agenda.length s).2.load q deadline := rfl
  rw [waits]
  cases length : s.agenda.length with
  | zero =>
      rw [nextDue?, List.eq_nil_of_length_eq_zero length] at due
      cases due
  | succ count =>
      simp only [resendUntil, bind, StateT.bind]
      rcases resendNext_cases q deadline time s with ⟨t, sent, less⟩ | ⟨early, -⟩
      · rw [sent]
        exact (load_resendUntil time count t).trans_lt less
      · rw [early] at due
        cases due

end Service

namespace Crew

variable {crew : Crew}

theorem load_assign (q : QueueSettings) (crew : Crew) : crew.assign.load q = crew.load q := by
  unfold assign
  split
  · next d held =>
    split
    · rfl
    · simp only [load, held, waitingLoad_append, Option.toList_some, Option.toList_none]
      simp only [waitingLoad, List.map_nil, List.sum_nil]
      omega
  · rfl

theorem load_fill {inbox : List Delivery} (free : crew.held = none) :
    (fill inbox crew).load q = Crew.load q { crew with inbox } := by
  induction inbox generalizing crew with
  | nil => rfl
  | cons d rest ih =>
      have taken : Crew.load q { { crew with held := some d }.assign with inbox := rest } =
          Crew.load q { crew with inbox := d :: rest } := by
        rw [← assign_inbox, load_assign]
        have first := waitingLoad_append q [d] rest
        rw [List.singleton_append] at first
        simp only [load, free, first, Option.toList_some, Option.toList_none]
        simp only [waitingLoad, List.map_nil, List.sum_nil]
        omega
      simp only [fill]
      split
      · exact taken
      · next none => exact (ih (Option.not_isSome_iff_eq_none.mp none)).trans taken

theorem load_takeUp (q : QueueSettings) (crew : Crew) (told : Bool) : (crew.takeUp told).load q = crew.load q := by
  simp only [takeUp]
  split
  · exact load_assign q crew
  · next on =>
    simp only [Bool.or_eq_true, not_or] at on
    exact (load_fill (Option.not_isSome_iff_eq_none.mp on.1.1)).trans (load_assign q crew)

end Crew

namespace Rehearsal.Turn

variable {c : Collaborators Script} {x y : Turn}

/-- A deadline that has come is one thing less to wait for. -/
theorem load_ring (q : QueueSettings) (deadline : Option Nat) (time : Nat) (s : Service) :
    s.load q (if deadline == some time then none else deadline) + (if deadline == some time then 1 else 0) ≤
      s.load q deadline := by
  by_cases come : deadline = some time
  · subst deadline
    simp only [beq_self_eq_true, if_true, Service.load, Option.isSome_none, Option.isSome_some, Bool.false_eq_true,
      if_false]
    omega
  · have still : ¬ (deadline == some time) = true := fun same => come (beq_iff_eq.mp same)
    rw [if_neg still, if_neg still, Nat.add_zero]

theorem load_standDown (q : QueueSettings) (deadline : Option Nat) (crew : Crew) (r : Rehearsal) :
    (standDown crew r).1.load q = crew.load q ∧
      (standDown crew r).2.service.load q deadline = r.service.load q deadline := by
  unfold standDown
  split
  · exact ⟨rfl, rfl⟩
  · exact ⟨rfl, rfl⟩

theorem load_prepare (q : QueueSettings) (x : Turn) : x.prepare.load q = x.load q := by
  have taken := Crew.load_takeUp q x.crew x.told
  simp only [prepare]
  split
  · obtain ⟨crew, service⟩ := load_standDown q x.deadline (x.crew.takeUp x.told) x.scene
    simp only [load, crew, service, taken]
  · simp only [load, taken]

/-- What waits on the topic of requests is taken. -/
theorem load_takeAll (q : QueueSettings) (deadline : Option Nat) (awaits : deadline.isSome) (r : Rehearsal) :
    (takeAll .requests r).2.service.load q deadline + waitingLoad q (takeAll .requests r).1 =
      r.service.load q deadline := by
  have taken : (takeAll .requests r).2.service.topics.requests.waiting = [] := List.drop_length
  have agenda : (takeAll .requests r).2.service.agenda = r.service.agenda := rfl
  have waiting : (takeAll .requests r).1 = r.service.topics.requests.waiting := rfl
  rw [Service.load, Service.load, if_pos awaits, if_pos awaits, taken, agenda, waiting]
  simp only [waitingLoad, List.map_nil, List.sum_nil]
  omega

theorem load_settle (q : QueueSettings) (x : Turn) :
    x.settle.load q =
      x.crew.load q + (Service.waitUntil x.scene.service.now x.scene.service).2.load q x.deadline := by
  simp only [settle]
  split
  · next awaits =>
    have taken := load_takeAll q x.deadline awaits (perform (Service.waitUntil x.scene.service.now) x.scene).2
    change _ = Service.load q x.deadline (Service.waitUntil x.scene.service.now x.scene.service).2 at taken
    rw [← taken]
    rcases takeAll .requests (perform (Service.waitUntil x.scene.service.now) x.scene).2 with ⟨news, scene⟩
    simp only [load, Crew.load, waitingLoad_append]
    omega
  · rfl

theorem load_start (q : QueueSettings) (x : Turn) : (x.start c q).load q + x.crew.ready.length ≤ x.load q := by
  have begun : (x.start c q).load q + x.crew.ready.length ≤
      Crew.load q { x.crew with ready := [] } + waitingLoad q x.crew.ready + x.scene.service.load q x.deadline :=
    load_forEach (load_begin c) x.crew.ready { x.crew with ready := [] } x.scene
  have crew : Crew.load q { x.crew with ready := [] } + waitingLoad q x.crew.ready = x.crew.load q := by
    simp only [Crew.load, waitingLoad, List.map_nil, List.sum_nil]
    omega
  rw [crew] at begun
  exact begun

theorem load_passTo (q : QueueSettings) (time : Nat) (x : Turn) :
    (x.passTo c q time).load q + (x.crew.busy.filter (·.due ≤ time)).length +
      (if x.deadline == some time then 1 else 0) ≤ x.load q := by
  have heard : (x.passTo c q time).load q + (x.crew.busy.filter (·.due ≤ time)).length ≤
      Crew.load q { x.crew with busy := x.crew.busy.filter fun job => !decide (job.due ≤ time) } +
        ((x.crew.busy.filter (·.due ≤ time)).map fun job => job.delivery.left q + 1).sum +
        x.scene.service.load q (if x.deadline == some time then none else x.deadline) := by
    simp only [passTo, List.partition_eq_filter_filter]
    exact load_forEach (load_hear c) _ _ { x.scene with service.now := max x.scene.service.now time }
  have crew : Crew.load q { x.crew with busy := x.crew.busy.filter fun job => !decide (job.due ≤ time) } +
      ((x.crew.busy.filter (·.due ≤ time)).map fun job => job.delivery.left q + 1).sum = x.crew.load q := by
    have busy := ((List.filter_append_perm (fun job : Job => decide (job.due ≤ time)) x.crew.busy).map
      fun job => job.delivery.left q + 1).sum_eq
    rw [List.map_append, List.sum_append] at busy
    simp only [Crew.load]
    omega
  have rings := load_ring q x.deadline time x.scene.service
  rw [crew] at heard
  have whole : x.load q = x.crew.load q + x.scene.service.load q x.deadline := rfl
  omega

/-- Less is to be done after all that a crew does. -/
theorem load_next (follows : x.next? c q = some y) : y.load q < x.load q := by
  unfold next? at follows
  split at follows
  · next goes =>
    cases follows
    rw [load_settle]
    have begun : (x.start c q).crew.load q + (x.start c q).scene.service.load q (x.start c q).deadline +
        x.crew.ready.length ≤ x.load q := load_start q x
    by_cases idle : x.crew.ready = []
    · have scene : (x.start c q).scene = x.scene := by
        rw [start, idle]
        rfl
      have deadline : (x.start c q).deadline = x.deadline := rfl
      rw [idle, List.isEmpty_nil, Bool.not_true, Bool.false_or] at goes
      have due : _ < x.scene.service.load q x.deadline := Service.load_waitUntil_of_due goes
      rw [scene, deadline] at begun ⊢
      omega
    · have busy : 0 < x.crew.ready.length := List.length_pos_iff.mpr idle
      have waited : _ ≤ Service.load q (x.start c q).deadline _ :=
        Service.load_waitUntil (x.start c q).scene.service.now (x.start c q).scene.service
      omega
  · split at follows
    · cases follows
    · obtain ⟨time, first, rfl⟩ := Option.map_eq_some_iff.mp follows
      rw [load_settle]
      have passed : (x.passTo c q time).crew.load q +
          (x.passTo c q time).scene.service.load q (x.passTo c q time).deadline +
          (x.crew.busy.filter (·.due ≤ time)).length + (if x.deadline == Option.some time then 1 else 0) ≤ x.load q :=
        load_passTo q time x
      have waited : _ ≤ Service.load q (x.passTo c q time).deadline _ :=
        Service.load_waitUntil (x.passTo c q time).scene.service.now (x.passTo c q time).scene.service
      have among := List.min?_mem first
      rw [List.mem_append, List.mem_append] at among
      rcases among with (ripe | due) | deadline
      · obtain ⟨job, member, rfl⟩ := List.mem_map.mp ripe
        have heard : 0 < (x.crew.busy.filter (·.due ≤ job.due)).length :=
          List.length_pos_of_mem (List.mem_filter.mpr ⟨member, decide_eq_true (Nat.le_refl _)⟩)
        omega
      · by_cases none : x.crew.busy.filter (·.due ≤ time) = []
        · have scene : (x.passTo c q time).scene =
              { x.scene with service.now := max x.scene.service.now time } := by
            simp only [passTo, List.partition_eq_filter_filter, none]
            rfl
          have late : (x.passTo c q time).scene.service.nextDue?.any
              (· ≤ (x.passTo c q time).scene.service.now) = true := by
            rw [scene]
            change x.scene.service.nextDue?.any (· ≤ max x.scene.service.now time) = true
            rw [Option.mem_toList.mp due]
            exact decide_eq_true (Nat.le_max_right _ _)
          have sent : _ < Service.load q (x.passTo c q time).deadline _ := Service.load_waitUntil_of_due late
          omega
        · have heard := List.length_pos_iff.mpr none
          omega
      · rw [Option.mem_toList.mp deadline, beq_self_eq_true, if_pos rfl] at passed
        omega

end Rehearsal.Turn

end Dossier
