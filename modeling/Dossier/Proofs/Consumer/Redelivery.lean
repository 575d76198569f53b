import Dossier.Proofs.Consumer.Circuit

/-! # Redelivery

A message is delivered as often as the limit allows and no more, by either consumer and in any interleaving. Main
statement: `redelivery_bounded`.
-/

namespace Dossier.Service

open Relation (ReflTransGen)
open RequestConsumer (Copy copiesOf numbered)

variable {π : Type}

namespace Circuit

variable {c : Collaborators π} {q : QueueSettings} {consumer : Consumer} {x : Circuit π} {copy : Copy}

/-- Whatever else is done than to handle deliveries of the topic happens outside. -/
theorem step_of_plain {β : Type} {act : Act π β} (plain : act.Plain consumer.channel) (o : Others π)
    (x : Circuit π) : Step c q consumer x (x.post consumer.channel (act.perform o x.service).2) := by
  obtain ⟨fresh, posts⟩ := act.posts plain o x.service
  exact .outside posts

/-- Work that nobody interrupts ends as it does by itself. -/
theorem steps_run (consumer : Consumer) (o : Others π) {β : Type} (act : Act π β) (rest : β → Work π Receipt)
    {before after : List (Copy × Work π Receipt)}
    (held : x.hands = before ++ (copy, .doing act rest) :: after) :
    ∃ y, ReflTransGen (Step c q consumer) x y ∧
      y.service = ((Work.doing act rest).run o x.service).2 ∧ y.hands = before ++ after ∧
      y.handled = x.handled ++ [⟨copy, some ((Work.doing act rest).run o x.service).1⟩] := by
  -- the last act is left to the one before it, so the induction is on what follows an act
  generalize same : rest (act.perform o x.service).1 = more
  induction more generalizing x β with
  | done receipt =>
      have ends : (Work.doing act rest).run o x.service = (receipt, (act.perform o x.service).2) := by
        have last : (rest (act.perform o x.service).1).run o (act.perform o x.service).2 =
            (receipt, (act.perform o x.service).2) := by
          rw [same]
          rfl
        exact last
      rw [ends]
      exact ⟨_, .single (.finish held o same), rfl, rfl, rfl⟩
  | @doing γ next further ih =>
      have goes : (Work.doing act rest).run o x.service =
          (Work.doing next further).run o (act.perform o x.service).2 := by
        rw [← same]
        rfl
      obtain ⟨y, steps, service, hands, handled⟩ := ih _ (x := { x.act consumer.channel copy
          (act.perform o x.service).2 with
        hands := before ++ (copy, rest (act.perform o x.service).1) :: after }) next further
        (by rw [same]) rfl
      rw [goes]
      refine ⟨y, .head (.proceed held o ?_) steps, service, hands, handled⟩
      rw [same]
      intro receipt other
      cases other

theorem begins (c : Collaborators π) (q : QueueSettings) (consumer : Consumer) (d : Delivery) :
    ∃ (β : Type) (act : Act π β) (rest : β → Work π Receipt), consumer.work c q d = .doing act rest := by
  cases consumer with
  | requests =>
      rw [Consumer.work]
      cases read : Request.read d.payload with
      | error fault =>
          rw [Work.request_of_unread read]
          exact ⟨_, _, _, rfl⟩
      | ok asked =>
          rw [Work.request_of_read read, Work.execute, Procedure.execute]
          cases c.registry.find? asked.processor.id with
          | none | some => exact ⟨_, _, _, rfl⟩
  | events =>
      unfold Consumer.work Work.event Procedure.consumeEvent
      dsimp only
      split
      · exact ⟨_, _, _, rfl⟩
      · exact ⟨_, _, _, rfl⟩

/-- A delivery can be taken and handled at once. -/
theorem steps_handle (consumer : Consumer) (o : Others π) {d : Delivery} {topic : Topic} {rest : List Copy}
    (taken : (x.service.topics.get consumer.channel).take? = some (d, topic))
    (first : x.queue = copy :: rest) :
    ∃ y, ReflTransGen (Step c q consumer) x y ∧
      (let (receipt, t) := (consumer.work c q d).run o
        { x.service with topics := x.service.topics.set consumer.channel topic }
      y.service = t ∧ y.hands = x.hands ∧ y.handled = x.handled ++ [⟨copy, some receipt⟩]) := by
  obtain ⟨β, act, more, work⟩ := begins c q consumer d
  have take : Step c q consumer x _ := .take taken first
  rw [work] at take ⊢
  obtain ⟨y, steps, service, hands, handled⟩ := steps_run (c := c) (q := q) consumer o act more
    (x := { x with
      service := { x.service with topics := x.service.topics.set consumer.channel topic }
      queue := rest
      hands := x.hands ++ [(copy, .doing act more)] }) rfl
  rw [List.append_nil] at hands
  exact ⟨y, .head take steps, service, hands, handled⟩

end Circuit

/-- Whatever happens, a message is delivered with the payload that was posted and never more often than the limit,
but once at any rate; attempts can be counted in 32 bits. A delivery is put off once if its handling does not
acknowledge it while its attempt is below the limit, and otherwise not at all; so a message is not handled any more
once a handling of it ends differently. The work of the consumers is what they do, and all that others do counts as
one of the things that can happen. -/
theorem redelivery_bounded (c : Collaborators π) (consumer : Consumer) (workers delay : Nat)
    (limit : UInt32) :
    let q : QueueSettings := ⟨workers, limit.toNat, delay⟩
    let most := max 1 limit.toNat
    (∀ process d, (Work.request c q d).run (others c process) = RequestConsumer.handle c q process d ∧
      (Work.event c q d).run (others c process) = EventConsumer.handle c q d) ∧
    ((∀ text, (Work.line c text).Plain consumer.channel) ∧
      (∀ other d, other ≠ consumer → (other.work c q d).Plain consumer.channel) ∧
      ∀ (β : Type) (act : Act π β) o x, act.Plain consumer.channel →
        Circuit.Step c q consumer x (x.post consumer.channel (act.perform o x.service).2)) ∧
    ∀ store (x : Circuit π), ReflTransGen (Circuit.Step c q consumer) { service := { store } } x →
      let topic := x.service.topics.get consumer.channel
      let dues := duesOf consumer.channel x.service.agenda
      (x.queue.map (·.delivery) = topic.waiting ∧ x.delayed.map (·.delivery) = dues ∧
        topic.sent.filter (·.attempt = 1) = x.posted.map .first) ∧
      (∀ d, d ∈ topic.sent ∨ d ∈ dues → 1 ≤ d.attempt ∧ d.attempt ≤ most ∧ d.payload ∈ x.posted) ∧
      (∀ copy ∈ x.copies, 1 ≤ copy.delivery.attempt ∧ copy.delivery.attempt ≤ most ∧
        x.posted[copy.message]? = some copy.delivery.payload) ∧
      (x.renewed = (x.handled.filter (·.again limit.toNat)).map (·.copy) ∧
        (x.handled.map fun one => (one.copy.message, one.copy.delivery.attempt)).Nodup ∧
        ∀ copy ∈ x.renewed,
          (UInt32.ofNat copy.delivery.attempt + 1).toNat = copy.delivery.again.attempt) ∧
      (∀ message k, (∀ one ∈ (handledOf message x.handled)[k]?, one.receipt ≠ some .nack) →
        (handledOf message x.handled).length + (copiesOf message x.copies).length ≤ min (k + 1) most) ∧
      x.handled.length + x.hands.length ≤ x.posted.length * most := by
  intro q most
  refine ⟨fun process d => ⟨Work.run_request c process q d, Work.run_event c process q d⟩,
    ⟨Work.plain_line c, fun other d different => Consumer.plain_work c q different d,
      fun β act o x plain => Circuit.step_of_plain plain o x⟩, ?_⟩
  intro store x reached topic dues
  have steady : Steady consumer.channel limit.toNat x :=
    Steady.steps (q := q) (Steady.start consumer.channel limit.toNat store) reached
  refine ⟨⟨steady.queue, steady.delayed, steady.first⟩, ?_, fun copy => steady.lives.bounded, ?_, ?_, ?_⟩
  · rintro d (sent | due)
    · exact steady.sent d sent
    · have delayed : x.delayed.map (·.delivery) = dues := steady.delayed
      rw [← delayed] at due
      obtain ⟨copy, member, rfl⟩ := List.mem_map.mp due
      have among : copy ∈ x.copies := List.mem_append_right _ (List.mem_append_left _ member)
      obtain ⟨least, most, found⟩ := steady.lives.bounded among
      exact ⟨least, most, List.mem_of_getElem? found⟩
  · refine ⟨steady.renewed, steady.lives.nodup, fun copy member => ?_⟩
    rw [steady.renewed] at member
    obtain ⟨one, among, rfl⟩ := List.mem_map.mp member
    have again := (List.mem_filter.mp among).2
    simp only [Handled.again, decide_eq_true_eq] at again
    have small := limit.toNat_lt
    have few : one.copy.delivery.attempt + 1 < 2 ^ 32 := by omega
    rw [UInt32.toNat_add, UInt32.toNat_ofNat']
    simp only [Delivery.again, UInt32.toNat_one]
    omega
  · intro message k final
    rcases found : x.posted[message]? with _ | payload
    · have unknown := List.getElem?_eq_none_iff.mp found
      rw [steady.lives.uncopied unknown, steady.lives.unhandled unknown]
      exact Nat.zero_le _
    · exact (steady.lives.each message payload found).stops final
  · refine Nat.le_trans (Nat.add_le_add_left ?_ _) steady.lives.total
    rw [Circuit.copies, List.length_append, List.length_map]
    exact Nat.le_add_right _ _

/-- Scans that cannot be looked up. -/
def unscanned : Collaborators Endpoint := .reliable [] (fun _ => .error .invalidResponse) dayClock

def announced : Event := ⟨⟨2⟩, "ADDED", ⟨1⟩, [⟨"scribe"⟩]⟩

/-- A delivery of an event is not acknowledged while the scan of its document cannot be looked up. -/
theorem run_unscanned (process : Endpoint → Uuid → Except ProcessorFailure Row) (q : QueueSettings)
    {d : Delivery} (payload : d.payload = announced.text) {s : Service} (held : s.store = .empty) :
    ∃ log, (Consumer.events.work unscanned q d).run (others unscanned process) s =
      (.nack, (putOff .events d q.redeliveryDelayMs q.maxDeliveries
        { s with finds := s.finds + 1, log }).2) := by
  have read : Event.read d.payload = .ok announced := payload ▸ announced.read_text
  rw [Consumer.work, Work.run_event, EventConsumer.handle_of_read read]
  obtain ⟨store, topics, agenda, now, readings, saves, finds, saved, log⟩ := s
  cases held
  exact ⟨_, rfl⟩

/-- So it is handled in vain. -/
theorem steps_unscanned {q : QueueSettings} {x : Circuit Endpoint} {copy : Copy} {d : Delivery}
    {topic : Topic} {rest : List Copy} (taken : x.service.topics.events.take? = some (d, topic))
    (first : x.queue = copy :: rest) (payload : d.payload = announced.text)
    (held : x.service.store = .empty) :
    ∃ y log, ReflTransGen (Circuit.Step unscanned q .events) x y ∧
      y.service = (putOff .events d q.redeliveryDelayMs q.maxDeliveries { x.service with
        topics := x.service.topics.set .events topic, finds := x.service.finds + 1, log }).2 ∧
      y.hands = x.hands ∧ y.handled = x.handled ++ [⟨copy, some .nack⟩] := by
  obtain ⟨y, steps, ends⟩ := Circuit.steps_handle (q := q) .events
    (others unscanned fun _ _ => .error .invalidResponse) taken first
  obtain ⟨log, failed⟩ := run_unscanned (fun _ _ => .error .invalidResponse) q payload
    (s := { x.service with topics := x.service.topics.set .events topic }) held
  rw [show Consumer.events.channel = .events from rfl, failed] at ends
  exact ⟨y, log, steps, ends⟩

/-- An event of which two deliveries fail, and no third is made. -/
theorem redelivered_once :
    let q : QueueSettings := ⟨1, (2 : UInt32).toNat, 0⟩
    ∃ x : Circuit Endpoint,
      ReflTransGen (Circuit.Step unscanned q .events) { service := { store := .empty } } x ∧
      x.handled.map (fun one => (one.copy.delivery, one.receipt)) =
        [(⟨1, announced.text⟩, some .nack), (⟨2, announced.text⟩, some .nack)] ∧
      x.renewed.length = 1 ∧ x.service.agenda = [] ∧
      x.handled.length + x.hands.length ≤ x.posted.length * max 1 2 := by
  intro q
  generalize same : announced.text = text
  let begun : Circuit Endpoint :=
    { service := { store := .empty, topics := { events := { sent := [.first text] } } }
      posted := [text]
      queue := [⟨0, .first text⟩] }
  have posts : Posts .events [text] { store := .empty } begun.service := ⟨rfl, rfl, rfl⟩
  have post : Circuit.Step unscanned q .events { service := { store := .empty } } begun := .outside posts
  have taken : begun.service.topics.events.take? = some (.first text, ⟨[.first text], 1, none⟩) := rfl
  obtain ⟨y, log, once, service, hands, handled⟩ := steps_unscanned (q := q) taken rfl same.symm rfl
  have few : (Delivery.first text).attempt < q.maxDeliveries := Nat.one_lt_two
  rw [putOff_of_lt few] at service
  have start : Steady Consumer.events.channel q.maxDeliveries
      ({ service := { store := .empty } } : Circuit Endpoint) := .start .events 2 .empty
  have steady := start.steps (.head post once)
  have delayed : y.delayed.map (·.delivery) = [⟨2, text⟩] :=
    steady.delayed.trans (by rw [service]; rfl)
  have queue : y.queue = [] :=
    List.map_eq_nil_iff.mp (steady.queue.trans (by rw [service]; rfl))
  obtain ⟨copy, waits, again⟩ := List.map_eq_singleton_iff.mp delayed
  let t := (Service.resend ⟨0, .events, ⟨2, text⟩⟩ { y.service with agenda := [], now := 0 }).2
  have due : y.service.agenda = [] ++ [⟨0, .events, ⟨2, text⟩⟩] := by
    rw [service]
    rfl
  have waiting : y.delayed = [] ++ [copy] := waits
  have back : Circuit.Step unscanned q .events y (y.resent .events copy [] t) :=
    .resend due rfl waiting rfl 0
  have topic : t.topics.events = ⟨[.first text, ⟨2, text⟩], 1, none⟩ := by
    simp only [t, service]
    rfl
  have next : (y.resent .events copy [] t).queue = [⟨copy.message, ⟨2, text⟩⟩] := by
    have since : sentSince .events y.service t = [⟨2, text⟩] := by
      rw [sentSince, show t.topics.get .events = _ from topic, service]
      rfl
    rw [Circuit.resent, queue, since]
    rfl
  have again : (y.resent .events copy [] t).service.topics.events.take? =
      some (⟨2, text⟩, ⟨[.first text, ⟨2, text⟩], 2, none⟩) := by
    rw [show (y.resent .events copy [] t).service.topics.events = _ from topic]
    rfl
  obtain ⟨z, log, twice, service', hands', handled'⟩ := steps_unscanned (q := q) again next same.symm
    (by simp only [Circuit.resent, t, service]; rfl)
  have many : q.maxDeliveries ≤ (Delivery.mk 2 text).attempt := Nat.le_refl 2
  rw [putOff_of_le many] at service'
  have run := (ReflTransGen.head post once).trans (.head back twice)
  have all : z.handled = [⟨⟨0, .first text⟩, some .nack⟩, ⟨⟨copy.message, ⟨2, text⟩⟩, some .nack⟩] := by
    rw [handled', show (y.resent .events copy [] t).handled = y.handled from rfl, handled]
    rfl
  obtain ⟨-, -, bounds⟩ := redelivery_bounded unscanned .events 1 0 2
  obtain ⟨-, -, -, ⟨renewed, -⟩, -, most⟩ := bounds .empty z run
  refine ⟨z, run, by rw [all]; rfl, ?_, ?_, most⟩
  · rw [renewed, all]
    rfl
  · rw [service']
    simp only [Circuit.resent, t, service]
    rfl

end Dossier.Service
