import Dossier.Consumer.Events
import Dossier.Proofs.Consumer.Handling
import Dossier.Proofs.Ingress.Effect
import Dossier.Proofs.Message.Event
import Dossier.Proofs.Service.Requesting
import Mathlib

/-! # Carriage

Messages reach their consumers unaltered. The event of an accepted line is the one that the consumer of events
works on, and the consumer of requests executes just what an initiation asked for, however often a message is
sent again. Main statement: `carried_unaltered`.
-/

namespace Dossier

variable {π : Type}

/-- What is told of an event that is handled. -/
def Event.received (event : Event) : LogEntry :=
  ⟨.debug, "Received event", [("event_id", event.id.text), ("event_type", event.kind)]⟩

namespace EventConsumer

open Service

theorem handle_of_read {d : Delivery} {event : Event} (read : Event.read d.payload = .ok event)
    (c : Collaborators π) (q : QueueSettings) : handle c q d = respond c q d event := by
  simp only [handle, Procedure.consumeEvent, read]
  rfl

theorem respond_of_ok {c : Collaborators π} {event : Event} {s t : Service}
    (ended : initiate c event.documentId event.processorIds false
      { s with log := s.log ++ [event.received] } = (.ok (), t)) (q : QueueSettings) (d : Delivery) :
    respond c q d event s = (.ack, t) :=
  congrArg (fun ended : Except ServiceFailure Unit × Service =>
    (Procedure.report event ended.1 >>= Procedure.acknowledge q d : StateM Service Receipt) ended.2) ended

end EventConsumer

namespace RequestConsumer

open Service

/-- The work on a delivery of a request is its execution, and what is concluded from the outcome. -/
theorem handle_of_read {d : Delivery} {request : Request}
    (read : Request.read d.payload = .ok request) (c : Collaborators π) (q : QueueSettings)
    (answer : π → Uuid → Except ProcessorFailure Row) (s : Service) :
    handle c q answer d s =
      let (outcome, t) := execute c answer request.documentId request.processor.id s
      conclude q d request outcome t := by
  simp only [handle, Procedure.consumeRequest, Procedure.start, read, execute_eq]
  cases c.registry.find? request.processor.id with
  | none => rfl
  | some processor => rfl

end RequestConsumer

open Service

/-- The event of an accepted line, and each request of an initiation, is what the text of its message is read as,
and what the consumer works on at each delivery of the message. -/
theorem carried_unaltered (c : Collaborators π) :
    (∀ line s id, (Ingress.answer c line s).1 = .accepted id →
      ∃ event, Command.read line = .ok (.initiate event) ∧ event.id = id ∧
        (Ingress.answer c line s).2.topics.events.sent =
          s.topics.events.sent ++ [.first event.text] ∧
        Event.read event.text = .ok event ∧
        ∀ (c' : Collaborators π) q attempt, EventConsumer.handle c' q ⟨attempt, event.text⟩ =
          EventConsumer.respond c' q ⟨attempt, event.text⟩ event) ∧
    (∀ documentId processorIds s, ∃ outcome t count,
      enqueue c documentId processorIds s = (outcome, t) ∧
      (outcome = .ok () → processorIds.length ≤ count) ∧
      t.topics.requests.sent = s.topics.requests.sent ++
        (processorIds.take count).map fun processorId =>
          .first (Request.text ⟨⟨processorId⟩, documentId⟩)) ∧
    ∀ documentId processorId, let request : Request := ⟨⟨processorId⟩, documentId⟩
      Request.read request.text = .ok request ∧
      ∀ q answer attempt s, RequestConsumer.handle c q answer ⟨attempt, request.text⟩ s =
        let (outcome, t) := execute c answer documentId processorId s
        RequestConsumer.conclude q ⟨attempt, request.text⟩ request outcome t := by
  refine ⟨?_, ?_, ?_⟩
  · intro line s id accepted
    obtain ⟨reply, effect, t, answered, deals, leads⟩ := Ingress.answer_deals c line s
    rw [answered] at accepted ⊢
    cases accepted
    cases deals with
    | served read serves =>
        cases serves with
        | @accepted event =>
            have sent := Topic.sent_of_sendAll (leads.topics .events)
            refine ⟨event, read, rfl, sent, event.read_text, fun c' q attempt => ?_⟩
            have carried : Event.read (Delivery.mk attempt event.text).payload = .ok event :=
              event.read_text
            exact EventConsumer.handle_of_read carried c' q
  · intro documentId processorIds s
    obtain ⟨outcome, effect, t, enqueued, leads, count, asked, all⟩ :=
      enqueue_asks c documentId processorIds s
    refine ⟨outcome, t, count, enqueued, all, ?_⟩
    have sent := Topic.sent_of_sendAll (leads.topics .requests)
    rw [show effect.sent .requests = _ from asked] at sent
    exact sent
  · intro documentId processorId request
    refine ⟨request.read_text, fun q answer attempt s => ?_⟩
    have carried : Request.read (Delivery.mk attempt request.text).payload = .ok request :=
      request.read_text
    exact RequestConsumer.handle_of_read carried c q answer s

/-- A line with its members in an odd order, and a processor whose name has to be escaped. -/
def oddLine : String :=
  "\x7b\"processorIds\":[[\"\\u0000\\\"\\\\\\ud83d\\ude00\"]]," ++
    "\"documentId\":\"00000000-0000-0000-0000-000000000001\",\"command\":\"initiate\"," ++
    "\"metadata\":[\"00000000-0000-0000-0000-000000000002\",\"ADDED\"]\x7d"

def oddEvent : Event where
  id := ⟨2⟩
  kind := "ADDED"
  documentId := ⟨1⟩
  processors := [⟨"\x00\"\\😀"⟩]

theorem read_oddLine : Command.read oddLine = .ok (.initiate oddEvent) := by cbv

/-- The event of the line is carried, with all the characters of the name. -/
theorem oddLine_carried :
    let c : Collaborators Endpoint := .reliable [] (fun _ => .ok .ready) dayClock
    (Ingress.answer c oddLine { store := .empty }).2.topics.events.sent = [.first oddEvent.text] ∧
      Event.read oddEvent.text = .ok oddEvent ∧
      ∀ q, EventConsumer.handle c q (.first oddEvent.text) =
        EventConsumer.respond c q (.first oddEvent.text) oddEvent := by
  intro c
  have accepted : (Ingress.answer c oddLine { store := .empty }).1 = .accepted ⟨2⟩ := by
    rw [Ingress.answer, Procedure.answer, read_oddLine]
    rfl
  obtain ⟨event, read, -, sent, same, handled⟩ := (carried_unaltered c).1 _ _ _ accepted
  have found : oddEvent = event :=
    Command.initiate.inj (Except.ok.inj (read_oddLine.symm.trans read))
  rw [← found] at sent same handled
  exact ⟨sent, same, fun q => handled c q 1⟩

end Dossier
