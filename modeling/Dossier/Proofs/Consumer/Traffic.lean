import Dossier.Proofs.Consumer.Chain
import Dossier.Proofs.Service.Initiation

/-! # Requests in traffic

The consumer of requests at work, together with all that goes on around it. It takes deliveries off the topic
and handles any number of them at once, processors answer in any order and with anything, and what was put off
is sent again at any time. Main statement: `requests_settled`.
-/

namespace Dossier.RequestConsumer

open Service

/-- A delivery in the hands of the consumer, with the processor at work on it if one has been called. -/
structure Hand where
  copy : Copy
  work : Option (Processor Endpoint × Request) := none

/-- A service and its consumer of requests. -/
structure Traffic where
  service : Service
  /-- The messages that were posted on the topic of requests, by number. -/
  posted : List Delivery := []
  /-- The copies that wait on the topic. -/
  queue : List Copy := []
  /-- The copies that wait to be sent again. -/
  delayed : List Copy := []
  hands : List Hand := []
  /-- The reports on all deliveries that were handled, the first one first. -/
  reports : List Report := []

/-- All copies that are on their way. -/
def Traffic.copies (x : Traffic) : List Copy :=
  x.queue ++ x.delayed ++ x.hands.map (·.copy)

/-- What comes of a delivery that was handled, with what was put off meanwhile. -/
def Traffic.handled (x : Traffic) (copy : Copy) (hands : List Hand) (receipt : Receipt)
    (t : Service) : Traffic :=
  { x with
    service := t
    delayed := x.delayed ++ (putOffBetween x.service t).map (Copy.mk copy.message)
    hands
    reports := x.reports ++ [.of copy.message copy.delivery receipt x.service t] }

/-- Whether a service has come of another without its consumer of requests: messages may have been posted, and
anything may have happened to store, clock and log, but the topics stay open. -/
structure Outside (s t : Service) (fresh : List Delivery) : Prop where
  requests : t.topics.requests =
    { s.topics.requests with sent := s.topics.requests.sent ++ fresh }
  completions : t.topics.completions.lifetime = none
  agenda : requestsOf t.agenda = requestsOf s.agenda

/-- What can happen. -/
inductive Step (c : Collaborators Endpoint) (q : QueueSettings) : Traffic → Traffic → Prop where
  | outside {x : Traffic} {t : Service} {fresh : List Delivery} (h : Outside x.service t fresh) :
      Step c q x { x with
        service := t
        posted := x.posted ++ fresh
        queue := x.queue ++ numbered x.posted.length fresh }
  /-- The consumer takes the first delivery that waits. -/
  | take {x : Traffic} {d : Delivery} {topic : Topic} {copy : Copy} {queue : List Copy}
      (taken : x.service.topics.requests.take? = some (d, topic)) (first : x.queue = copy :: queue) :
      Step c q x { x with
        service := { x.service with topics := x.service.topics.set .requests topic }
        queue
        hands := ⟨copy, none⟩ :: x.hands }
  /-- The consumer begins with a delivery, and calls a processor. -/
  | call {x : Traffic} {copy : Copy} {others : List Hand} {processor : Processor Endpoint}
      {request : Request} {t : Service} (held : x.hands.Perm (⟨copy, none⟩ :: others))
      (started : start c q copy.delivery x.service = (.calling processor request, t)) :
      Step c q x { x with service := t, hands := ⟨copy, some (processor, request)⟩ :: others }
  /-- The consumer begins with a delivery, and needs no processor. -/
  | dispatch {x : Traffic} {copy : Copy} {others : List Hand} {receipt : Receipt} {t : Service}
      (held : x.hands.Perm (⟨copy, none⟩ :: others))
      (started : start c q copy.delivery x.service = (.done receipt, t)) :
      Step c q x (x.handled copy others receipt t)
  /-- A processor answers, and the consumer finishes with the delivery. -/
  | finish {x : Traffic} {copy : Copy} {others : List Hand} {processor : Processor Endpoint}
      {request : Request} {receipt : Receipt} {t : Service}
      (held : x.hands.Perm (⟨copy, some (processor, request)⟩ :: others)) (exchange : Http.Exchange)
      (finished : finish c q copy.delivery processor request
        (processor.duty.answer request.documentId exchange) x.service = (receipt, t)) :
      Step c q x (x.handled copy others receipt t)
  /-- A delivery that was put off is sent again. -/
  | resend {x : Traffic} {before after : List Redelivery} {r : Redelivery} {front back : List Copy}
      {copy : Copy} (due : x.service.agenda = before ++ r :: after) (channel : r.channel = .requests)
      (delayed : x.delayed = front ++ copy :: back)
      (place : front.length = (requestsOf before).length) :
      Step c q x { x with
        service := (Service.resend r { x.service with agenda := before ++ after }).2
        queue := x.queue ++ [copy]
        delayed := front ++ back }

/-- Whether a service is one whose consumer of requests has nothing to do. -/
structure Quiet (s : Service) : Prop where
  taken : s.topics.requests.taken = s.topics.requests.sent.length
  requests : s.topics.requests.lifetime = none
  completions : s.topics.completions.lifetime = none
  agenda : requestsOf s.agenda = []

/-- All that can come of a service whose consumer has nothing to do. -/
inductive Reachable (c : Collaborators Endpoint) (q : QueueSettings) : Traffic → Prop where
  | start {s : Service} (quiet : Quiet s) : Reachable c q { service := s }
  | step {x y : Traffic} (reachable : Reachable c q x) (step : Step c q x y) : Reachable c q y

/-- What adds something to a service whose topics stay open happens outside. -/
theorem outside_of_leads {effect : Effect} {s t : Service} (leads : effect.Leads s t)
    (requests : s.topics.requests.lifetime = none) (completions : s.topics.completions.lifetime = none) :
    Outside s t effect.requests := by
  have endless (channel : Channel) (h : (s.topics.get channel).lifetime = none) :
      t.topics.get channel =
        { s.topics.get channel with sent := (s.topics.get channel).sent ++ effect.sent channel } := by
    have sent := leads.topics channel
    rw [Topic.sendAll_of_endless h] at sent
    exact (Option.some.inj sent).symm
  exact {
    requests := endless .requests requests
    completions := (congrArg Topic.lifetime (endless .completions completions)).trans completions
    agenda := by rw [leads.agenda] }

/-- Whether each hand that waits for a processor has the one of the request that it holds. -/
def Hand.Apt (c : Collaborators Endpoint) (hand : Hand) : Prop :=
  ∀ processor request, hand.work = some (processor, request) →
    Request.read hand.copy.delivery.payload = .ok request ∧
      c.registry.find? request.processor.id = some processor

/-- What holds at all times: the copies are what there is on the topic, on the agenda and in the hands of the
consumer, and they make chains. -/
structure Orderly (c : Collaborators Endpoint) (q : QueueSettings) (x : Traffic) : Prop where
  queue : x.queue.map (·.delivery) = x.service.topics.requests.waiting
  taken : x.service.topics.requests.taken ≤ x.service.topics.requests.sent.length
  requests : x.service.topics.requests.lifetime = none
  completions : x.service.topics.completions.lifetime = none
  delayed : x.delayed.map (·.delivery) = requestsOf x.service.agenda
  hands : ∀ hand ∈ x.hands, hand.Apt c
  reports : ∀ report ∈ x.reports, report.after = report.before.addingAll report.rows
  ledger : Ledger q x.posted x.copies x.reports

variable {c : Collaborators Endpoint} {q : QueueSettings} {x y : Traffic} {s t : Service}

theorem requestsOf_append (agenda more : List Redelivery) :
    requestsOf (agenda ++ more) = requestsOf agenda ++ requestsOf more := by
  simp only [requestsOf, List.filter_append, List.map_append]

theorem Quiet.orderly (quiet : Quiet s) : Orderly c q { service := s } where
  queue := by simp [Topic.waiting, quiet.taken]
  taken := Nat.le_of_eq quiet.taken
  requests := quiet.requests
  completions := quiet.completions
  delayed := quiet.agenda.symm
  hands := by simp
  reports := by simp
  ledger := .empty q

theorem Orderly.outside (orderly : Orderly c q x) {fresh : List Delivery}
    (outside : Outside x.service t fresh) :
    Orderly c q { x with
      service := t
      posted := x.posted ++ fresh
      queue := x.queue ++ numbered x.posted.length fresh } where
  queue := by
    simp only [List.map_append, map_numbered, orderly.queue, outside.requests, Topic.waiting]
    rw [List.drop_append_of_le_length orderly.taken]
  taken := by
    simp only [outside.requests, List.length_append]
    exact Nat.le_add_right_of_le orderly.taken
  requests := by
    simp only [outside.requests]
    exact orderly.requests
  completions := outside.completions
  delayed := orderly.delayed.trans outside.agenda.symm
  hands := orderly.hands
  reports := orderly.reports
  ledger := by
    apply (orderly.ledger.post fresh).perm
    simp only [Traffic.copies, List.append_assoc]
    rw [← List.append_assoc x.delayed]
    exact List.perm_append_comm.append_left x.queue

theorem Orderly.take (orderly : Orderly c q x) {d : Delivery} {topic : Topic} {copy : Copy}
    {queue : List Copy} (taken : x.service.topics.requests.take? = some (d, topic))
    (first : x.queue = copy :: queue) :
    Orderly c q { x with
      service := { x.service with topics := x.service.topics.set .requests topic }
      queue
      hands := ⟨copy, none⟩ :: x.hands } := by
  obtain ⟨d', head, same⟩ := Option.map_eq_some_iff.mp taken
  obtain ⟨-, rfl⟩ := Prod.mk.inj same
  have waiting := orderly.queue
  rw [first, List.map_cons] at waiting
  exact {
    queue := by
      have rest := congrArg List.tail waiting
      simp only [Topic.waiting, List.tail_drop] at rest
      exact rest
    taken := by
      have some : x.service.topics.requests.waiting.length ≠ 0 := by simp [← waiting]
      rw [Topic.waiting, List.length_drop] at some
      simp only [Topics.set]
      omega
    requests := orderly.requests
    completions := orderly.completions
    delayed := orderly.delayed
    hands := by
      intro hand member
      rcases List.mem_cons.mp member with rfl | old
      · intro processor request work
        cases work
      · exact orderly.hands hand old
    reports := orderly.reports
    ledger := by
      apply orderly.ledger.perm
      simp only [Traffic.copies, first, List.map_cons, List.cons_append, List.append_assoc]
      rw [← List.append_assoc, ← List.append_assoc]
      exact List.perm_middle.symm }

theorem Orderly.call (orderly : Orderly c q x) {copy : Copy} {others : List Hand}
    {processor : Processor Endpoint} {request : Request}
    (held : x.hands.Perm (⟨copy, none⟩ :: others))
    (started : start c q copy.delivery x.service = (.calling processor request, t)) :
    Orderly c q { x with service := t, hands := ⟨copy, some (processor, request)⟩ :: others } := by
  obtain ⟨read, found, rfl⟩ := start_calls started
  exact { orderly with
    hands := by
      intro hand member
      rcases List.mem_cons.mp member with rfl | old
      · intro processor request work
        cases work
        exact ⟨read, found⟩
      · exact orderly.hands hand (held.mem_iff.mpr (List.mem_cons_of_mem _ old))
    ledger := orderly.ledger.perm ((held.map _).append_left _) }

/-- Handling a delivery keeps order if it keeps to its topics and settles a request. -/
theorem Orderly.handled (orderly : Orderly c q x) {copy : Copy} {hand : Hand} {others : List Hand}
    {receipt : Receipt} (held : x.hands.Perm (hand :: others)) (holds : hand.copy = copy)
    (spares : Spares x.service t)
    (settles : ∀ request, copy.delivery.payload = Request.text request →
      Settles q copy.delivery request x.service t receipt) :
    Orderly c q (x.handled copy others receipt t) := by
  obtain ⟨more, agenda⟩ := spares.agenda
  obtain ⟨rows, saved, stored⟩ := spares.stored
  have before : x.copies.Perm (copy :: (x.queue ++ x.delayed ++ others.map (·.copy))) := by
    rw [← holds]
    exact ((held.map _).append_left _).trans List.perm_middle
  exact {
    queue := by
      simp only [Traffic.handled, spares.requests]
      exact orderly.queue
    taken := by
      simp only [Traffic.handled, spares.requests]
      exact orderly.taken
    requests := by
      simp only [Traffic.handled, spares.requests]
      exact orderly.requests
    completions := spares.completions
    delayed := by
      simp only [Traffic.handled, putOffBetween, List.map_append, orderly.delayed, ← agenda,
        requestsOf_append, List.drop_left, List.map_map, Function.comp_def, List.map_id']
    hands := fun hand member => orderly.hands hand (held.mem_iff.mpr (List.mem_cons_of_mem _ member))
    reports := by
      intro report member
      rcases List.mem_append.mp member with old | new
      · exact orderly.reports report old
      · rw [List.mem_singleton.mp new, Report.of, saved, List.drop_left]
        exact stored
    ledger := by
      apply ((orderly.ledger.perm before).settle settles).perm
      simp only [Traffic.copies, Traffic.handled, List.append_assoc]
      exact (List.perm_append_comm.append_left x.delayed).append_left x.queue }

/-- A message that is sent again reaches a topic that stays open. -/
theorem resend_of_endless {r : Redelivery} (endless : (s.topics.get r.channel).lifetime = none) :
    ∃ told, (Service.resend r s).2 = { s with
      log := s.log ++ told
      topics := s.topics.set r.channel
        { s.topics.get r.channel with sent := (s.topics.get r.channel).sent ++ [r.delivery] } } := by
  have sent := Topic.sendAll_of_endless endless [r.delivery]
  have opened : (s.topics.get r.channel).send? r.delivery = some
      { s.topics.get r.channel with sent := (s.topics.get r.channel).sent ++ [r.delivery] } := by
    rw [← sent]
    simp [Topic.sendAll]
  refine ⟨[⟨.debug, "Redelivering message",
    [("topic", r.channel.name), ("attempt", Number.decimal r.delivery.attempt)]⟩], ?_⟩
  simp only [Service.resend, Service.tell, send, ExceptT.run, bind, StateT.bind, opened]
  rfl

theorem Orderly.resend (orderly : Orderly c q x) {before after : List Redelivery} {r : Redelivery}
    {front back : List Copy} {copy : Copy} (due : x.service.agenda = before ++ r :: after)
    (channel : r.channel = .requests) (delayed : x.delayed = front ++ copy :: back)
    (place : front.length = (requestsOf before).length) :
    Orderly c q { x with
      service := (Service.resend r { x.service with agenda := before ++ after }).2
      queue := x.queue ++ [copy]
      delayed := front ++ back } := by
  have agenda := orderly.delayed
  rw [due, delayed, List.map_append, requestsOf_append] at agenda
  obtain ⟨fronts, rest⟩ := List.append_inj agenda (by rw [List.length_map, place])
  have head : requestsOf (r :: after) = r.delivery :: requestsOf after := by
    simp [requestsOf, channel]
  rw [head, List.map_cons] at rest
  obtain ⟨same, backs⟩ := List.cons.inj rest
  obtain ⟨told, sent⟩ := resend_of_endless (s := { x.service with agenda := before ++ after })
    (r := r) (by rw [channel]; exact orderly.requests)
  rw [sent, channel]
  exact {
    queue := by
      simp only [Topics.set, Topics.get, Topic.waiting, List.map_append, orderly.queue, List.map_cons,
        same, List.map_nil]
      rw [List.drop_append_of_le_length orderly.taken]
    taken := by
      simp only [Topics.set, Topics.get, List.length_append]
      exact Nat.le_add_right_of_le orderly.taken
    requests := orderly.requests
    completions := orderly.completions
    delayed := by rw [List.map_append, requestsOf_append, fronts, backs]
    hands := orderly.hands
    reports := orderly.reports
    ledger := by
      apply orderly.ledger.perm
      simp only [Traffic.copies, delayed, List.append_assoc, List.cons_append, List.nil_append]
      exact List.perm_middle.append_left x.queue }

/-- Whatever happens keeps order, if processors go by the ids under which they stand. -/
theorem Orderly.step
    (goes : ∀ id processor, c.registry.find? id = some processor → processor.id = id)
    (orderly : Orderly c q x) (step : Step c q x y) : Orderly c q y := by
  cases step with
  | outside h => exact orderly.outside h
  | take taken first => exact orderly.take taken first
  | call held started => exact orderly.call held started
  | dispatch held started =>
      apply orderly.handled held rfl (start_spares orderly.completions started)
      intro request payload
      have read := request.read_text
      rw [← payload] at read
      exact (start_settles read orderly.completions started).1
  | finish held exchange finished =>
      obtain ⟨read, found⟩ := orderly.hands _ (held.mem_iff.mpr List.mem_cons_self) _ _ rfl
      obtain ⟨settles, spares⟩ :=
        finish_settles (goes _ _ found) exchange orderly.completions finished
      apply orderly.handled held rfl spares
      intro request payload
      simp only at read
      rw [payload, Request.read_text] at read
      cases read
      exact settles
  | resend due channel delayed place => exact orderly.resend due channel delayed place

theorem Reachable.orderly
    (goes : ∀ id processor, c.registry.find? id = some processor → processor.id = id)
    (reachable : Reachable c q x) : Orderly c q x := by
  induction reachable with
  | start quiet => exact quiet.orderly
  | step _ step ih => exact ih.step goes step

/-- Processors that were registered in turn go by the ids under which they stand. -/
theorem goes_ofList (processors : List (String × Endpoint)) (id : String)
    (processor : Processor Endpoint) (found : (Registry.ofList processors).find? id = some processor) :
    processor.id = id := by
  rw [Registry.find?_ofList] at found
  obtain ⟨duty, -, rfl⟩ := Option.map_eq_some_iff.mp found
  rfl

/-- Collaborators with no processors, whose store takes all rows. -/
def unmanned : Collaborators Endpoint where
  registry := .ofList []
  scan _ := .ok .ready
  clock _ := ⟨⟨2026, 1, 1⟩, 0, 0⟩
  saveFault _ := none
  findFault _ := none

/-- A request of which nobody knows the processor is not on its way any more after one delivery. -/
theorem reachable_dispatched {d : Delivery} {request : Request}
    (read : Request.read d.payload = .ok request) :
    ∃ x, Reachable unmanned {} x ∧ x.posted = [d] ∧ x.copies = [] ∧
      ∀ report ∈ x.reports, report.attempt = d.attempt := by
  let s : Service := { store := .empty }
  let posted : Service := { s with topics := { requests := { sent := [d] } } }
  let taken : Service := { s with topics := { requests := { sent := [d], taken := 1 } } }
  have quiet : Quiet s := ⟨rfl, rfl, rfl, rfl⟩
  have outside : Outside s posted [d] := ⟨rfl, rfl, rfl⟩
  have first : posted.topics.requests.take? = some (d, taken.topics.requests) := rfl
  obtain ⟨receipt, t, started, agenda⟩ : ∃ receipt t,
      start unmanned {} d taken = (.done receipt, t) ∧ t.agenda = [] := by
    rw [start_of_read read]
    exact ⟨_, _, rfl, rfl⟩
  refine ⟨_, (((Reachable.start quiet).step (.outside outside)).step (.take first rfl)).step
    (.dispatch (.refl _) started), rfl, ?_, ?_⟩
  · simp [Traffic.copies, Traffic.handled, putOffBetween, agenda, requestsOf, numbered]
  · simp [Traffic.handled, Report.of]

end Dossier.RequestConsumer
