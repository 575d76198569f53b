import Dossier.Proofs.Consumer.Life
import Dossier.Proofs.Consumer.Retrying
import Mathlib.Logic.Relation

/-! # Messages in circulation

A message that is posted on the topic of a consumer circulates: it is taken, handled, put off and sent again. Any
number of copies are handled at once, by work whose acts take turns in any order, while others post messages; and the
receiver of the topic may go away. All the while the messages lead orderly lives. Main statement: `Steady.step`.
-/

namespace Dossier.Service

open Relation (ReflTransGen)
open RequestConsumer (Copy copiesOf numbered map_numbered)

variable {π : Type}

/-- The consumers of messages that are sent again. -/
inductive Consumer where
  | requests
  | events

namespace Consumer

def channel : Consumer → Channel
  | .requests => .requests
  | .events => .events

/-- The work of a consumer on a delivery. -/
def work (c : Collaborators π) (q : QueueSettings) : Consumer → Delivery → Work π Receipt
  | .requests => Work.request c q
  | .events => Work.event c q

theorem retries_work (c : Collaborators π) (q : QueueSettings) (consumer : Consumer) (d : Delivery) :
    (consumer.work c q d).Retries consumer.channel d q.maxDeliveries := by
  cases consumer with
  | requests => exact Work.retries_request d c q
  | events => exact Work.retries_event d c q

theorem plain_work (c : Collaborators π) (q : QueueSettings) {consumer other : Consumer}
    (different : other ≠ consumer) (d : Delivery) : (other.work c q d).Plain consumer.channel := by
  cases other with
  | requests =>
      refine Work.plain_request (fun same => different ?_) c q d
      cases consumer with
      | requests => rfl
      | events => cases same
  | events =>
      refine Work.plain_event (fun same => different ?_) c q d
      cases consumer with
      | requests => cases same
      | events => rfl

end Consumer

variable {channel : Channel} {limit : Nat}

/-- A service and all copies of messages of a topic. -/
structure Circuit (π : Type) : Type 1 where
  service : Service
  /-- What was posted; messages are numbered by their places here. -/
  posted : List String := []
  /-- The copies that wait on the topic. -/
  queue : List Copy := []
  /-- The copies that wait to be sent again. -/
  delayed : List Copy := []
  /-- The copies that are being handled, with what is left to do. -/
  hands : List (Copy × Work π Receipt) := []
  handled : List Handled := []
  /-- The handled copies that were put off, each as often as it was. -/
  renewed : List Copy := []

/-- What was sent on a topic while a service has changed. -/
def sentSince (channel : Channel) (s t : Service) : List Delivery :=
  (t.topics.get channel).sent.drop (s.topics.get channel).sent.length

/-- What was put off on a topic while a service has changed. -/
def duesSince (channel : Channel) (s t : Service) : List Delivery :=
  (duesOf channel t.agenda).drop (duesOf channel s.agenda).length

namespace Circuit

/-- All copies that are on their way. -/
def copies (x : Circuit π) : List Copy :=
  x.hands.map (·.1) ++ (x.delayed ++ x.queue)

/-- The circuit after a change of its service; all that was sent counts as posted. -/
def post (channel : Channel) (x : Circuit π) (t : Service) : Circuit π :=
  let fresh := sentSince channel x.service t
  { x with
    service := t
    posted := x.posted ++ fresh.map (·.payload)
    queue := x.queue ++ numbered x.posted.length fresh }

/-- The circuit after an act of who handles a copy. -/
def act (channel : Channel) (x : Circuit π) (copy : Copy) (t : Service) : Circuit π :=
  let dues := duesSince channel x.service t
  { x.post channel t with
    delayed := x.delayed ++ dues.map (Copy.mk copy.message)
    renewed := x.renewed ++ dues.map fun _ => copy }

/-- The circuit after a copy that waited to be sent again has left its place. -/
def resent (channel : Channel) (x : Circuit π) (copy : Copy) (others : List Copy) (t : Service) :
    Circuit π :=
  { x with
    service := t
    queue := x.queue ++ (sentSince channel x.service t).map (Copy.mk copy.message)
    delayed := others }

/-- What can happen next. -/
inductive Step (c : Collaborators π) (q : QueueSettings) (consumer : Consumer) :
    Circuit π → Circuit π → Prop where
  /-- Others do something. -/
  | outside {x : Circuit π} {t : Service} {fresh : List String}
      (posts : Posts consumer.channel fresh x.service t) : Step c q consumer x (x.post consumer.channel t)
  | take {x : Circuit π} {d : Delivery} {topic : Topic} {copy : Copy} {rest : List Copy}
      (taken : (x.service.topics.get consumer.channel).take? = some (d, topic))
      (first : x.queue = copy :: rest) :
      Step c q consumer x { x with
        service := { x.service with topics := x.service.topics.set consumer.channel topic }
        queue := rest
        hands := x.hands ++ [(copy, consumer.work c q d)] }
  /-- Who handles a copy goes on with the next act, and is not done yet. -/
  | proceed {x : Circuit π} {before after : List (Copy × Work π Receipt)} {copy : Copy} {β : Type}
      {act : Act π β} {rest : β → Work π Receipt}
      (held : x.hands = before ++ (copy, .doing act rest) :: after) (o : Others π)
      (more : ∀ receipt, rest (act.perform o x.service).1 ≠ .done receipt) :
      Step c q consumer x { x.act consumer.channel copy (act.perform o x.service).2 with
        hands := before ++ (copy, rest (act.perform o x.service).1) :: after }
  /-- Who handles a copy does the last act. -/
  | finish {x : Circuit π} {before after : List (Copy × Work π Receipt)} {copy : Copy} {β : Type}
      {act : Act π β} {rest : β → Work π Receipt} {receipt : Receipt}
      (held : x.hands = before ++ (copy, .doing act rest) :: after) (o : Others π)
      (done : rest (act.perform o x.service).1 = .done receipt) :
      Step c q consumer x { x.act consumer.channel copy (act.perform o x.service).2 with
        hands := before ++ after, handled := x.handled ++ [⟨copy, some receipt⟩] }
  /-- The handling of a copy breaks off. -/
  | collapse {x : Circuit π} {before after : List (Copy × Work π Receipt)} {copy : Copy}
      {work : Work π Receipt} (held : x.hands = before ++ (copy, work) :: after) :
      Step c q consumer x { x with
        hands := before ++ after, handled := x.handled ++ [⟨copy, none⟩] }
  /-- A copy is sent again; it is lost if nobody receives it. -/
  | resend {x : Circuit π} {before after : List Redelivery} {r : Redelivery}
      {earlier later : List Copy} {copy : Copy} (due : x.service.agenda = before ++ r :: after)
      (own : r.channel = consumer.channel) (waits : x.delayed = earlier ++ copy :: later)
      (place : earlier.length = (duesOf consumer.channel before).length) (now : Nat) :
      Step c q consumer x (x.resent consumer.channel copy (earlier ++ later)
        (Service.resend r { x.service with agenda := before ++ after, now }).2)

end Circuit

/-- What holds at all times. -/
structure Steady (channel : Channel) (limit : Nat) (x : Circuit π) : Prop where
  queue : x.queue.map (·.delivery) = (x.service.topics.get channel).waiting
  delayed : x.delayed.map (·.delivery) = duesOf channel x.service.agenda
  taken : (x.service.topics.get channel).taken ≤ (x.service.topics.get channel).sent.length
  hands : ∀ hand ∈ x.hands, hand.2.Retries channel hand.1.delivery limit
  lives : Lives limit x.posted x.copies x.handled
  renewed : x.renewed = (x.handled.filter (·.again limit)).map (·.copy)
  /-- A copy that waits to be sent again was handled before. -/
  later : ∀ copy ∈ x.delayed, 2 ≤ copy.delivery.attempt
  sent : ∀ d ∈ (x.service.topics.get channel).sent,
    1 ≤ d.attempt ∧ d.attempt ≤ max 1 limit ∧ d.payload ∈ x.posted
  first : (x.service.topics.get channel).sent.filter (·.attempt = 1) = x.posted.map .first

theorem waiting_of_take? {topic after : Topic} {d : Delivery}
    (taken : topic.take? = some (d, after)) :
    topic.waiting = d :: after.waiting ∧ after.sent = topic.sent ∧ after.taken ≤ after.sent.length := by
  obtain ⟨first, head, same⟩ := Option.map_eq_some_iff.mp taken
  cases same
  obtain ⟨rest, waiting⟩ : ∃ rest, topic.waiting = d :: rest := List.head?_eq_some_iff.mp head
  have short : topic.taken < topic.sent.length := by
    have length := congrArg List.length waiting
    rw [Topic.waiting, List.length_drop, List.length_cons] at length
    omega
  refine ⟨?_, rfl, short⟩
  rw [waiting, Topic.waiting, ← List.drop_drop]
  exact congrArg (d :: ·) (congrArg (List.drop 1) waiting).symm

/-- What is sent again arrives as it was put off, if it arrives. -/
theorem resend_sends (r : Redelivery) (s : Service) :
    ∃ reached, (reached = [] ∨ reached = [r.delivery]) ∧
      ((resend r s).2.topics.get r.channel).sent = (s.topics.get r.channel).sent ++ reached ∧
      ((resend r s).2.topics.get r.channel).taken = (s.topics.get r.channel).taken ∧
      (resend r s).2.agenda = s.agenda := by
  rcases resend_leads r s with leads | leads
  · have reached := leads.topics r.channel
    rw [sent_sending, if_pos rfl] at reached
    exact ⟨[r.delivery], .inr rfl, Topic.sent_of_sendAll reached, Topic.taken_of_sendAll reached, leads.agenda⟩
  · rw [leads.unchanged.2]
    exact ⟨[], .inl rfl, (List.append_nil _).symm, rfl, leads.agenda⟩

namespace Steady

variable {x : Circuit π} {s t : Service} {fresh : List String}
  {before after : List (Copy × Work π Receipt)} {copy : Copy} {work : Work π Receipt}

theorem start (channel : Channel) (limit : Nat) (store : Store) :
    Steady channel limit ({ service := { store } } : Circuit π) := by
  cases channel with
  | requests | completions | events =>
      exact ⟨rfl, rfl, Nat.le_refl 0, by simp, .empty limit, rfl, by simp, by simp [Topics.get], rfl⟩

theorem sentSince_of_posts (posts : Posts channel fresh s t) :
    sentSince channel s t = fresh.map .first := by
  rw [sentSince, posts.sent, List.drop_left]

/-- An act that puts nothing off does what others might do as well. -/
theorem act_of_posts (posts : Posts channel fresh x.service t) :
    x.act channel copy t = x.post channel t := by
  have dues : duesSince channel x.service t = [] := by
    rw [duesSince, posts.dues]
    exact List.drop_length
  rw [Circuit.act, dues, List.map_nil, List.map_nil, List.append_nil, List.append_nil]
  rfl

/-- An act that puts a copy off is the only one that does more. -/
theorem act_of_putOff (x : Circuit π) (copy : Copy) (due : Nat) :
    x.act channel copy { x.service with
        agenda := x.service.agenda ++ [⟨due, channel, copy.delivery.again⟩] } =
      { x with
        service := { x.service with
          agenda := x.service.agenda ++ [⟨due, channel, copy.delivery.again⟩] }
        delayed := x.delayed ++ [⟨copy.message, copy.delivery.again⟩]
        renewed := x.renewed ++ [copy] } := by
  have own : duesOf channel [⟨due, channel, copy.delivery.again⟩] = [copy.delivery.again] := by
    simp [duesOf]
  have dues : duesSince channel x.service { x.service with
      agenda := x.service.agenda ++ [⟨due, channel, copy.delivery.again⟩] } = [copy.delivery.again] := by
    rw [duesSince, duesOf_append, own]
    exact List.drop_left
  have none : sentSince channel x.service { x.service with
      agenda := x.service.agenda ++ [⟨due, channel, copy.delivery.again⟩] } = [] := List.drop_length
  rw [Circuit.act, Circuit.post, dues, none]
  simp only [numbered, List.map_nil, List.map_cons, List.append_nil]

theorem waiting_append {topic after : Topic} {more : List Delivery}
    (taken : topic.taken ≤ topic.sent.length) (sent : after.sent = topic.sent ++ more)
    (same : after.taken = topic.taken) : after.waiting = topic.waiting ++ more := by
  rw [Topic.waiting, Topic.waiting, sent, same, List.drop_append_of_le_length taken]

/-- New messages are the only ones of a first attempt. -/
theorem post (steady : Steady channel limit x) (posts : Posts channel fresh x.service t) :
    Steady channel limit (x.post channel t) := by
  have payloads : (fresh.map Delivery.first).map (·.payload) = fresh := by
    rw [List.map_map]
    exact List.map_id fresh
  have since := sentSince_of_posts posts
  have posted : (x.post channel t).posted = x.posted ++ fresh := by
    rw [Circuit.post, since, payloads]
  have queue : (x.post channel t).queue =
      x.queue ++ numbered x.posted.length (fresh.map .first) := by
    rw [Circuit.post, since]
  exact {
    queue := by
      rw [queue, List.map_append, map_numbered, steady.queue]
      exact (waiting_append steady.taken posts.sent posts.taken).symm
    delayed := steady.delayed.trans posts.dues.symm
    taken := by
      rw [show (x.post channel t).service = t from rfl, posts.taken, posts.sent, List.length_append]
      exact Nat.le_add_right_of_le steady.taken
    hands := steady.hands
    lives := by
      rw [posted]
      have copies : (x.post channel t).copies =
          x.copies ++ numbered x.posted.length (fresh.map .first) := by
        rw [Circuit.copies, Circuit.copies, queue, List.append_assoc, List.append_assoc]
        rfl
      rw [copies]
      exact steady.lives.post fresh
    renewed := steady.renewed
    later := steady.later
    sent := by
      intro d member
      rw [show (x.post channel t).service = t from rfl, posts.sent] at member
      rw [posted]
      rcases List.mem_append.mp member with old | new
      · obtain ⟨least, most, among⟩ := steady.sent d old
        exact ⟨least, most, List.mem_append_left _ among⟩
      · obtain ⟨payload, among, rfl⟩ := List.mem_map.mp new
        exact ⟨Nat.le_refl 1, Nat.le_max_left 1 limit, List.mem_append_right _ among⟩
    first := by
      have all : (fresh.map Delivery.first).filter (·.attempt = 1) = fresh.map .first :=
        List.filter_eq_self.mpr fun d member => by
          obtain ⟨payload, -, rfl⟩ := List.mem_map.mp member
          rfl
      rw [show (x.post channel t).service = t from rfl, posts.sent, posted, List.filter_append, all,
        steady.first, List.map_append] }

/-- Copies change hands, or the work on them goes on. -/
theorem hold (steady : Steady channel limit x) (held : x.hands = before ++ (copy, work) :: after)
    {more : Work π Receipt} (retries : more.Retries channel copy.delivery limit) :
    Steady channel limit { x with hands := before ++ (copy, more) :: after } :=
  { steady with
    hands := by
      intro hand member
      rcases List.mem_append.mp member with old | member
      · exact steady.hands hand (by rw [held]; exact List.mem_append_left _ old)
      · rcases List.mem_cons.mp member with rfl | old
        · exact retries
        · exact steady.hands hand
            (by rw [held]; exact List.mem_append_right _ (List.mem_cons_of_mem _ old))
    lives := by
      have copies : ({ x with hands := before ++ (copy, more) :: after } : Circuit π).copies =
          x.copies := by simp [Circuit.copies, held]
      rw [copies]
      exact steady.lives }

theorem copies_of_held (held : x.hands = before ++ (copy, work) :: after) :
    x.copies.Perm (copy :: ({ x with hands := before ++ after } : Circuit π).copies) := by
  simp only [Circuit.copies, held, List.map_append, List.map_cons, List.append_assoc, List.cons_append]
  exact List.perm_middle

theorem hands_of_held (steady : Steady channel limit x)
    (held : x.hands = before ++ (copy, work) :: after) :
    ∀ hand ∈ before ++ after, hand.2.Retries channel hand.1.delivery limit := by
  intro hand member
  refine steady.hands hand ?_
  rw [held]
  exact List.mem_append.mpr ((List.mem_append.mp member).imp_right (List.mem_cons_of_mem _))

/-- A copy is handled, and that is the end of it. -/
theorem settle (steady : Steady channel limit x) (held : x.hands = before ++ (copy, work) :: after)
    {receipt : Option Receipt} (final : (Handled.mk copy receipt).again limit = false) :
    Steady channel limit
      { x with hands := before ++ after, handled := x.handled ++ [⟨copy, receipt⟩] } :=
  { steady with
    hands := steady.hands_of_held held
    lives := by
      have lives := (steady.lives.perm (copies_of_held held)).replace [] [⟨copy, receipt⟩] (by simp)
        fun life => life.handle rfl (.inl rfl)
      rwa [List.map_nil, List.append_nil] at lives
    renewed := by
      have none : [Handled.mk copy receipt].filter (·.again limit) = [] := by
        rw [List.filter_cons, final]
        rfl
      rw [List.filter_append, none, List.append_nil]
      exact steady.renewed }

/-- A copy is handled and put off. -/
theorem renew (steady : Steady channel limit x) (held : x.hands = before ++ (copy, work) :: after)
    (few : copy.delivery.attempt < limit) (due : Nat) :
    Steady channel limit { x with
      service := { x.service with
        agenda := x.service.agenda ++ [⟨due, channel, copy.delivery.again⟩] }
      delayed := x.delayed ++ [⟨copy.message, copy.delivery.again⟩]
      renewed := x.renewed ++ [copy]
      hands := before ++ after
      handled := x.handled ++ [⟨copy, some .nack⟩] } :=
  { steady with
    delayed := by
      have own : duesOf channel [⟨due, channel, copy.delivery.again⟩] = [copy.delivery.again] := by
        simp [duesOf]
      rw [duesOf_append, own, List.map_append, steady.delayed]
      rfl
    hands := steady.hands_of_held held
    lives := by
      refine ((steady.lives.perm (copies_of_held held)).replace [copy.delivery.again]
        [⟨copy, some .nack⟩] (by simp) fun life => life.handle rfl (.inr ⟨rfl, rfl, few⟩)).perm ?_
      simp only [Circuit.copies, List.map_cons, List.map_nil, List.append_assoc]
      exact (List.perm_append_comm.append_left _).append_left _
    later := by
      intro other member
      rcases List.mem_append.mp member with old | new
      · exact steady.later other old
      · rw [List.mem_singleton.mp new]
        have among : copy ∈ x.copies := (copies_of_held held).mem_iff.mpr List.mem_cons_self
        exact Nat.succ_le_succ (steady.lives.bounded among).1
    renewed := by
      have own : [Handled.mk copy (some .nack)].filter (·.again limit) = [⟨copy, some .nack⟩] := by
        simp [Handled.again, few]
      rw [List.filter_append, own, List.map_append, ← steady.renewed]
      rfl }

/-- The first copy of the queue is the one that is taken off the topic. -/
theorem take (steady : Steady channel limit x) {d : Delivery} {topic : Topic} {rest : List Copy}
    (taken : (x.service.topics.get channel).take? = some (d, topic)) (first : x.queue = copy :: rest)
    (retries : work.Retries channel d limit) :
    Steady channel limit { x with
      service := { x.service with topics := x.service.topics.set channel topic }
      queue := rest
      hands := x.hands ++ [(copy, work)] } := by
  obtain ⟨waiting, sent, most⟩ := waiting_of_take? taken
  have queue := steady.queue
  rw [first, waiting, List.map_cons, List.cons.injEq] at queue
  obtain ⟨rfl, queue⟩ := queue
  have same : (x.service.topics.set channel topic).get channel = topic := by
    rw [Topics.get_set, if_pos rfl]
  exact {
    queue := by rw [same]; exact queue
    delayed := steady.delayed
    taken := by rw [same]; exact most
    hands := by
      intro hand member
      rcases List.mem_append.mp member with old | new
      · exact steady.hands hand old
      · rw [List.mem_singleton.mp new]
        exact retries
    lives := by
      refine steady.lives.perm ?_
      simp only [Circuit.copies, first, List.map_append, List.map_cons, List.map_nil, List.append_assoc]
      exact List.perm_middle.append_left _
    renewed := steady.renewed
    later := steady.later
    sent := by rw [same, sent]; exact steady.sent
    first := by rw [same, sent]; exact steady.first }

/-- The copy that is sent again goes to the end of the queue, or is lost. -/
theorem resend (steady : Steady channel limit x) {before after : List Redelivery} {r : Redelivery}
    {earlier later : List Copy} (due : x.service.agenda = before ++ r :: after)
    (own : r.channel = channel) (waits : x.delayed = earlier ++ copy :: later)
    (place : earlier.length = (duesOf channel before).length) (now : Nat) :
    Steady channel limit (x.resent channel copy (earlier ++ later)
      (Service.resend r { x.service with agenda := before ++ after, now }).2) := by
  subst own
  obtain ⟨reached, all, sent, taken, agenda⟩ :=
    resend_sends r { x.service with agenda := before ++ after, now }
  generalize (Service.resend r { x.service with agenda := before ++ after, now }).2 = t at *
  have dues : duesOf r.channel x.service.agenda =
      duesOf r.channel before ++ r.delivery :: duesOf r.channel after := by
    rw [due, duesOf_append]
    simp [duesOf]
  have delayed := steady.delayed
  rw [waits, dues, List.map_append, List.map_cons] at delayed
  obtain ⟨front, back⟩ := List.append_inj delayed (by rw [List.length_map, place])
  obtain ⟨same, back⟩ := List.cons.inj back
  have member : copy ∈ x.delayed := by rw [waits]; simp
  have among : copy ∈ x.copies := List.mem_append_right _ (List.mem_append_left _ member)
  have since : sentSince r.channel x.service t = reached := by
    rw [sentSince, sent]
    exact List.drop_left
  have apart : x.copies.Perm (copy :: (x.hands.map (·.1) ++ (earlier ++ later ++ x.queue))) := by
    rw [Circuit.copies, waits, List.append_assoc, ← List.append_assoc]
    refine List.perm_middle.trans (List.Perm.of_eq ?_)
    simp only [List.append_assoc, List.append_eq]
  have lives : Lives limit x.posted (x.hands.map (·.1) ++ (earlier ++ later ++ x.queue) ++
      reached.map (Copy.mk copy.message)) x.handled := by
    rcases all with rfl | rfl
    · have lost := (steady.lives.perm apart).replace [] [] (by simp)
        fun life => by simpa only [List.append_nil] using life.lose
      rwa [List.append_nil] at lost
    · rw [← same]
      exact (steady.lives.perm apart).perm (List.perm_append_singleton copy _).symm
  obtain ⟨least, most, found⟩ := steady.lives.bounded among
  have again := steady.later copy member
  exact {
    queue := by
      have numbers : (reached.map (Copy.mk copy.message)).map (·.delivery) = reached := by
        rw [List.map_map]
        exact List.map_id reached
      rw [Circuit.resent, since, List.map_append, numbers, steady.queue]
      exact (waiting_append steady.taken sent taken).symm
    delayed := by
      rw [show (x.resent r.channel copy (earlier ++ later) t).service.agenda = before ++ after from agenda,
        duesOf_append, ← front, ← back]
      exact List.map_append
    taken := by
      rw [show (x.resent r.channel copy (earlier ++ later) t).service = t from rfl, taken, sent,
        List.length_append]
      exact Nat.le_add_right_of_le steady.taken
    hands := steady.hands
    lives := by
      refine lives.perm (List.Perm.of_eq ?_)
      simp only [Circuit.copies, Circuit.resent, since, List.append_assoc]
    renewed := steady.renewed
    later := fun other member => by
      refine steady.later other ?_
      rw [waits]
      exact List.mem_append.mpr ((List.mem_append.mp member).imp_right (List.mem_cons_of_mem _))
    sent := by
      intro d among
      rw [show (x.resent r.channel copy (earlier ++ later) t).service = t from rfl, sent] at among
      rcases List.mem_append.mp among with old | new
      · exact steady.sent d old
      · rcases all with rfl | rfl
        · cases new
        · rw [List.mem_singleton.mp new, ← same]
          exact ⟨least, most, List.mem_of_getElem? found⟩
    first := by
      have none : reached.filter (·.attempt = 1) = [] := by
        rw [List.filter_eq_nil_iff]
        intro d new
        rcases all with rfl | rfl
        · cases new
        · rw [List.mem_singleton.mp new, ← same, decide_eq_true_eq]
          exact Nat.ne_of_gt again
      rw [show (x.resent r.channel copy (earlier ++ later) t).service = t from rfl, sent,
        List.filter_append, none, List.append_nil]
      exact steady.first }

/-- Nothing that can happen breaks it. -/
theorem step {c : Collaborators π} {q : QueueSettings} {consumer : Consumer} {y : Circuit π}
    (steady : Steady consumer.channel q.maxDeliveries x) (step : Circuit.Step c q consumer x y) :
    Steady consumer.channel q.maxDeliveries y := by
  cases step with
  | outside posts => exact steady.post posts
  | take taken first => exact steady.take taken first (consumer.retries_work c q _)
  | @proceed before after copy β act rest held o more =>
      have retries : (Work.doing act rest).Retries consumer.channel copy.delivery q.maxDeliveries :=
        steady.hands (copy, .doing act rest) (by rw [held]; simp)
      cases retries with
      | act plain further =>
          obtain ⟨fresh, posts⟩ := act.posts plain o x.service
          have next := (steady.hold held (further (act.perform o x.service).1)).post posts
          rw [act_of_posts posts]
          exact next
      | putOff delay => exact absurd rfl (more .nack)
  | @finish before after copy β act rest receipt held o done =>
      have retries : (Work.doing act rest).Retries consumer.channel copy.delivery q.maxDeliveries :=
        steady.hands (copy, .doing act rest) (by rw [held]; simp)
      cases retries with
      | act plain further =>
          obtain ⟨fresh, posts⟩ := act.posts plain o x.service
          have ack : receipt = .ack := by
            have last := further (act.perform o x.service).1
            rw [done] at last
            cases last
            rfl
          have final : (Handled.mk copy (some receipt)).again q.maxDeliveries = false := by
            simp [Handled.again, ack]
          have next := (steady.settle held final).post posts
          rw [act_of_posts posts]
          exact next
      | putOff delay =>
          cases done
          rcases Nat.lt_or_ge copy.delivery.attempt q.maxDeliveries with few | many
          · rw [Act.perform, putOff_of_lt few, act_of_putOff]
            exact steady.renew held few _
          · have dead : (Handled.mk copy (some .nack)).again q.maxDeliveries = false := by
              simp [Handled.again, many]
            rw [Act.perform, putOff_of_le many, act_of_posts (posts_of_nothing (leads_log _))]
            exact (steady.settle held dead).post (posts_of_nothing (leads_log _))
  | collapse held => exact steady.settle held (by simp [Handled.again])
  | resend due own waits place now => exact steady.resend due own waits place now

theorem steps {c : Collaborators π} {q : QueueSettings} {consumer : Consumer} {y : Circuit π}
    (steady : Steady consumer.channel q.maxDeliveries x)
    (steps : ReflTransGen (Circuit.Step c q consumer) x y) :
    Steady consumer.channel q.maxDeliveries y := by
  induction steps with
  | refl => exact steady
  | tail _ step ih => exact ih.step step

end Steady

end Dossier.Service
