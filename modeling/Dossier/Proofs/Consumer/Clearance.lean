import Dossier.Proofs.Consumer.Posting
import Mathlib.Logic.Relation

/-! # Clearance

The components of the service at work: lines are answered and deliveries handled, any number of them at once, whose
acts take turns in any order, while those answer anything who are asked. In front of every new request on the topic
of requests there is a lookup that lets its document pass. Main statements: `Lawful.step` and `scan_gate`.
-/

namespace Dossier.Service

open Relation (ReflTransGen)

variable {π α β : Type} {p p' : Uuid → Prop} {s t : Service}

/-- What is taken off a topic was sent on it, and the topic forgets nothing. -/
theorem sent_of_take? {topic after : Topic} {d : Delivery} (taken : topic.take? = some (d, after)) :
    d ∈ topic.sent ∧ after.sent = topic.sent := by
  obtain ⟨first, head, same⟩ := Option.map_eq_some_iff.mp taken
  cases same
  exact ⟨List.mem_of_mem_drop (List.mem_of_head? head), rfl⟩

/-- Whether a delivery on a topic was sent before, or is a request for one of some documents if it is on the topic
of requests. -/
def Fair (p : Uuid → Prop) (channel : Channel) (d : Delivery) : Prop :=
  1 ≤ d.attempt ∧ (channel = .requests → d.attempt = 1 →
    ∃ documentId processorId, p documentId ∧ d = .asking documentId processorId)

theorem fair_of_sent {d : Delivery} (sent : 2 ≤ d.attempt) (channel : Channel) : Fair p channel d :=
  ⟨Nat.le_of_succ_le sent, fun _ first => by omega⟩

/-- Whether a service has come of another with only fair deliveries sent, and only such put off that were sent
before. -/
structure Moves (p : Uuid → Prop) (s t : Service) : Prop where
  sent : ∀ channel, ∃ more, (t.topics.get channel).sent = (s.topics.get channel).sent ++ more ∧
    ∀ d ∈ more, Fair p channel d
  agenda : ∀ r ∈ t.agenda, r ∈ s.agenda ∨ 2 ≤ r.delivery.attempt

theorem moves_of_topics (same : ∀ channel, (t.topics.get channel).sent = (s.topics.get channel).sent)
    (agenda : ∀ r ∈ t.agenda, r ∈ s.agenda ∨ 2 ≤ r.delivery.attempt) : Moves p s t where
  sent channel := ⟨[], by rw [same, List.append_nil], by simp⟩
  agenda

/-- A topic that sends nothing is put in the place of one. -/
theorem moves_of_set {channel : Channel} {topic : Topic}
    (same : topic.sent = (s.topics.get channel).sent) :
    Moves p s { s with topics := s.topics.set channel topic } := by
  refine moves_of_topics (fun other => ?_) fun _ => .inl
  rw [Topics.get_set]
  split
  · subst other
    exact same
  · rfl

theorem moves_of_leads {e : Effect} (leads : e.Leads s t)
    (fair : ∀ channel, ∀ d ∈ e.sent channel, Fair p channel d) : Moves p s t where
  sent channel := ⟨e.sent channel, Topic.sent_of_sendAll (leads.topics channel), fair channel⟩
  agenda _ member := .inl (leads.agenda ▸ member)

theorem moves_of_nothing (leads : Effect.nothing.Leads s t) : Moves p s t :=
  moves_of_leads leads fun channel d member => by cases channel <;> cases member

theorem Deed.moves {deed : Deed π α} (keeps : deed.Keeps p) (s : Service) :
    Moves p s (deed.perform s).2 := by
  cases deed with
  | tell level message fields => exact moves_of_nothing (leads_log _)
  | readClock c =>
      exact moves_of_leads leads_readings fun channel d member => by cases channel <;> cases member
  | save c row =>
      rcases save_cases c row s with ⟨-, t, saved, leads, -⟩ | ⟨-, failure, t, failed, leads⟩
      · rw [perform, ExceptT.run, saved]
        exact moves_of_leads leads fun channel d member => by cases channel <;> cases member
      · rw [perform, ExceptT.run, failed]
        exact moves_of_nothing leads
  | ask c question =>
      obtain ⟨outcome, asked⟩ := ask_cases c question s
      rw [perform, ExceptT.run, asked]
      exact moves_of_nothing { Effect.Leads.refl s with }
  | publish channel payload =>
      rcases publish_cases channel payload s with ⟨-, t, sent, leads⟩ | ⟨-, failed⟩
      · rw [perform, ExceptT.run, sent]
        refine moves_of_leads leads fun other d member => ?_
        rw [sent_sending] at member
        split at member
        · subst other
          rw [List.mem_singleton.mp member]
          refine ⟨Nat.le_refl 1, fun requests _ => ?_⟩
          subst channel
          obtain ⟨documentId, processorId, allowed, rfl⟩ := keeps
          exact ⟨documentId, processorId, allowed, rfl⟩
        · cases member
      · rw [perform, ExceptT.run, failed]
        exact moves_of_nothing (.refl s)

theorem Act.moves {act : Act π α} (keeps : act.Keeps p) (o : Others π) (s : Service) :
    Moves p s (act.perform o s).2 := by
  cases act with
  | deed single => exact Deed.moves keeps s
  | look | call => exact moves_of_nothing (.refl s)
  | putOff channel d delay limit =>
      rcases Nat.lt_or_ge d.attempt limit with few | many
      · rw [perform, putOff_of_lt few]
        refine moves_of_topics (fun _ => rfl) fun r member => ?_
        rcases List.mem_append.mp member with old | added
        · exact .inl old
        · rw [List.mem_singleton.mp added]
          exact .inr (Nat.succ_le_succ keeps)
      · rw [perform, putOff_of_le many]
        exact moves_of_nothing (leads_log _)

/-- What is sent again is the delivery as it was put off, if anything is. -/
theorem resend_moves {r : Redelivery} (sent : 2 ≤ r.delivery.attempt) (s : Service) :
    Moves p s (resend r s).2 := by
  rcases resend_leads r s with leads | leads
  · refine moves_of_leads leads fun channel d member => ?_
    rw [sent_sending] at member
    split at member
    · rw [List.mem_singleton.mp member]
      exact fair_of_sent sent channel
    · cases member
  · exact moves_of_nothing leads

/-- What is noted of all that happens. -/
inductive Note where
  | looked (lookup : Lookup)
  /-- A message was posted on the topic of requests. -/
  | posted (d : Delivery)

def Note.posted? : Note → Option Delivery
  | .looked _ => none
  | .posted d => some d

/-- A service, with all the work on it that was begun. -/
structure Affairs (π : Type) : Type 1 where
  service : Service
  notes : List Note
  works : List ((α : Type) × Work π α)

namespace Affairs

/-- The affairs of a service with nothing to do. -/
def start (store : Store) : Affairs π := ⟨{ store }, [], []⟩

/-- The affairs after some lookups and a move of the service. -/
def next (x : Affairs π) (t : Service) (lookups : List Lookup)
    (works : List ((α : Type) × Work π α)) : Affairs π where
  service := t
  notes := x.notes ++ lookups.map .looked ++
    (t.topics.requests.sent.drop x.service.topics.requests.sent.length).map .posted
  works

/-- What can happen next. -/
inductive Step (c : Collaborators π) (q : QueueSettings) : Affairs π → Affairs π → Prop where
  | line (x : Affairs π) (text : String) :
      Step c q x (x.next x.service [] (x.works ++ [⟨_, .line c text⟩]))
  | event {x : Affairs π} {d : Delivery} {topic : Topic}
      (taken : x.service.topics.events.take? = some (d, topic)) :
      Step c q x (x.next { x.service with topics := x.service.topics.set .events topic } []
        (x.works ++ [⟨_, .event c q d⟩]))
  | request {x : Affairs π} {d : Delivery} {topic : Topic}
      (taken : x.service.topics.requests.take? = some (d, topic)) :
      Step c q x (x.next { x.service with topics := x.service.topics.set .requests topic } []
        (x.works ++ [⟨_, .request c q d⟩]))
  /-- Some work goes on with its next act. -/
  | proceed {x : Affairs π} {before after : List ((α : Type) × Work π α)} {α β : Type}
      {act : Act π β} {rest : β → Work π α} (held : x.works = before ++ ⟨α, .doing act rest⟩ :: after)
      (o : Others π) :
      Step c q x (x.next (act.perform o x.service).2 (act.lookups (act.perform o x.service).1)
        (before ++ ⟨α, rest (act.perform o x.service).1⟩ :: after))
  /-- A delivery that was put off is sent again. -/
  | resend {x : Affairs π} {before after : List Redelivery} {r : Redelivery}
      (due : x.service.agenda = before ++ r :: after) (now : Nat) :
      Step c q x (x.next
        (Service.resend r { x.service with agenda := before ++ after, now }).2 [] x.works)
  /-- The receiver of a topic goes away. -/
  | close (x : Affairs π) (channel : Channel) :
      Step c q x (x.next { x.service with
        topics := x.service.topics.set channel (x.service.topics.get channel).close } [] x.works)

/-- Whether a lookup that is noted lets a document pass. -/
def Noted (notes : List Note) (documentId : Uuid) : Prop :=
  ∃ answer, .looked ⟨documentId, answer⟩ ∈ notes ∧ Clears answer

theorem Noted.append {notes : List Note} {documentId : Uuid} (noted : Noted notes documentId)
    (more : List Note) : Noted (notes ++ more) documentId := by
  obtain ⟨answer, member, clears⟩ := noted
  exact ⟨answer, List.mem_append_left more member, clears⟩

/-- Whether there is a lookup in front of each new request that lets its document pass. -/
def Justified (notes : List Note) : Prop :=
  ∀ before d after, notes = before ++ .posted d :: after → d.attempt = 1 →
    ∃ documentId processorId, Noted before documentId ∧ d = .asking documentId processorId

theorem Justified.append {notes more : List Note} (justified : Justified notes)
    (fair : ∀ d, .posted d ∈ more → Fair (Noted notes) .requests d) : Justified (notes ++ more) := by
  intro before d after split first
  -- an old request has its lookup already; a new one finds it among the old notes
  rcases List.append_eq_append_iff.mp split with ⟨others, rfl, rest⟩ | ⟨others, whole, rest⟩
  · obtain ⟨documentId, processorId, noted, same⟩ := (fair d (by simp [rest])).2 rfl first
    exact ⟨documentId, processorId, noted.append others, same⟩
  · cases others with
    | nil =>
        rw [List.append_nil] at whole
        subst whole
        rw [List.nil_append] at rest
        exact (fair d (by simp [← rest])).2 rfl first
    | cons note others =>
        rw [List.cons_append, List.cons.injEq] at rest
        obtain ⟨rfl, -⟩ := rest
        exact justified before d others whole first

/-- What holds at all times. -/
structure Lawful (x : Affairs π) : Prop where
  sent : x.service.topics.requests.sent = x.notes.filterMap Note.posted?
  attempts : ∀ channel, ∀ d ∈ (x.service.topics.get channel).sent, 1 ≤ d.attempt
  agenda : ∀ r ∈ x.service.agenda, 2 ≤ r.delivery.attempt
  works : ∀ work ∈ x.works, work.2.Keeps (Noted x.notes)
  notes : Justified x.notes

theorem Lawful.start (store : Store) : Lawful (start store : Affairs π) where
  sent := rfl
  attempts channel d member := by cases channel <;> cases member
  agenda _ member := nomatch member
  works _ member := nomatch member
  notes before d after split := by
    have length := congrArg List.length split
    simp [Affairs.start] at length

variable {x y : Affairs π}

theorem Lawful.next (lawful : Lawful x) {t : Service} (moves : Moves (Noted x.notes) x.service t)
    (lookups : List Lookup) {works : List ((α : Type) × Work π α)}
    (keeps : ∀ work ∈ works, work.2.Keeps (Noted (x.notes ++ lookups.map .looked))) :
    Lawful (x.next t lookups works) := by
  obtain ⟨more, same, fair⟩ := moves.sent .requests
  have sent : t.topics.requests.sent = x.service.topics.requests.sent ++ more := same
  have looked : (lookups.map Note.looked).filterMap Note.posted? = [] := by
    simp [List.filterMap_map, Function.comp_def, Note.posted?]
  have posted : (more.map Note.posted).filterMap Note.posted? = more := by
    simp [List.filterMap_map, Function.comp_def, Note.posted?]
  exact {
    sent := by
      simp only [Affairs.next, sent, List.drop_left, List.filterMap_append, looked, posted,
        List.append_nil, ← lawful.sent]
    attempts := by
      intro channel d member
      obtain ⟨more, same, fair⟩ := moves.sent channel
      rw [show (x.next t lookups works).service = t from rfl, same] at member
      rcases List.mem_append.mp member with old | added
      · exact lawful.attempts channel d old
      · exact (fair d added).1
    agenda := by
      intro r member
      rcases moves.agenda r member with old | sent
      · exact lawful.agenda r old
      · exact sent
    works := fun work member => (keeps work member).mono fun _ noted => noted.append _
    notes := by
      simp only [Affairs.next, sent, List.drop_left, List.append_assoc]
      refine lawful.notes.append fun d member => ?_
      rcases List.mem_append.mp member with lookup | added
      · simp at lookup
      · obtain ⟨d, among, same⟩ := List.mem_map.mp added
        cases same
        exact fair d among }

/-- Nothing that can happen breaks it. -/
theorem Lawful.step {c : Collaborators π} {q : QueueSettings} (lawful : Lawful x)
    (step : Step c q x y) : Lawful y := by
  have others {lookups : List Lookup} (work : (α : Type) × Work π α) (member : work ∈ x.works) :
      work.2.Keeps (Noted (x.notes ++ lookups.map .looked)) :=
    (lawful.works work member).mono fun _ noted => noted.append _
  have begun {work : (α : Type) × Work π α}
      (keeps : work.2.Keeps (Noted (x.notes ++ ([] : List Lookup).map .looked))) :
      ∀ other ∈ x.works ++ [work],
        other.2.Keeps (Noted (x.notes ++ ([] : List Lookup).map .looked)) := by
    intro other member
    rcases List.mem_append.mp member with old | new
    · exact others other old
    · rw [List.mem_singleton.mp new]
      exact keeps
  cases step with
  | line text => exact lawful.next (moves_of_nothing (.refl _)) [] (begun (Work.keeps_line c text))
  | @event d topic taken =>
      obtain ⟨member, same⟩ := sent_of_take? taken
      have sent := lawful.attempts .events d member
      exact lawful.next (moves_of_set same) [] (begun (Work.keeps_event c q sent))
  | @request d topic taken =>
      obtain ⟨member, same⟩ := sent_of_take? taken
      have sent := lawful.attempts .requests d member
      exact lawful.next (moves_of_set same) [] (begun (Work.keeps_request c q sent))
  | @proceed before after α β act rest held o =>
      have keeps := lawful.works ⟨α, .doing act rest⟩ (by rw [held]; simp)
      refine lawful.next (Act.moves keeps.1 o _) _ fun work member => ?_
      rcases List.mem_append.mp member with old | member
      · exact others work (by rw [held]; exact List.mem_append_left _ old)
      · rcases List.mem_cons.mp member with rfl | old
        · refine (keeps.2 _).mono fun documentId cleared => ?_
          rcases cleared with noted | ⟨answer, looked, clears⟩
          · exact noted.append _
          · exact ⟨answer, List.mem_append_right _ (List.mem_map_of_mem looked), clears⟩
        · exact others work (by rw [held]; exact List.mem_append_right _ (List.mem_cons_of_mem _ old))
  | @resend before after r due now =>
      have sent := lawful.agenda r (by rw [due]; simp)
      have moves := resend_moves (p := Noted x.notes) sent
        { x.service with agenda := before ++ after, now := now }
      refine lawful.next { moves with agenda := fun other member => ?_ } [] fun work => others work
      rcases moves.agenda other member with old | sent
      · refine .inl ?_
        rw [due]
        exact List.mem_append.mpr ((List.mem_append.mp old).imp_right (List.mem_cons_of_mem r))
      · exact .inr sent
  | close channel =>
      have same : (x.service.topics.get channel).close.sent = (x.service.topics.get channel).sent := rfl
      exact lawful.next (moves_of_set same) [] fun work => others work

theorem Lawful.steps {c : Collaborators π} {q : QueueSettings} (lawful : Lawful x)
    (steps : ReflTransGen (Step c q) x y) : Lawful y := by
  induction steps with
  | refl => exact lawful
  | tail _ step ih => exact ih.step step

/-- Work that nobody interrupts is carried out as one operation. -/
theorem steps_run (c : Collaborators π) (q : QueueSettings) (o : Others π) (work : Work π α)
    (x : Affairs π) {before after : List ((α : Type) × Work π α)}
    (held : x.works = before ++ ⟨α, work⟩ :: after) :
    ∃ y, ReflTransGen (Step c q) x y ∧ y.service = (work.run o x.service).2 ∧
      y.works = before ++ ⟨α, .done (work.run o x.service).1⟩ :: after := by
  -- the other works stand still, so the place of this one among them is kept
  induction work generalizing x with
  | done a => exact ⟨x, .refl, rfl, held⟩
  | doing act rest ih =>
      obtain ⟨y, steps, service, works⟩ := ih (act.perform o x.service).1
        (x.next (act.perform o x.service).2 (act.lookups (act.perform o x.service).1)
          (before ++ ⟨α, rest (act.perform o x.service).1⟩ :: after)) rfl
      exact ⟨y, .head (.proceed held o) steps, service, works⟩

/-- Processors that never answer well. -/
def nobody : π → Uuid → Except ProcessorFailure Row := fun _ _ => .error .invalidResponse

/-- Work that is begun can be carried out at once. -/
theorem steps_begun {c : Collaborators π} {q : QueueSettings} (o : Others π) {work : Work π α}
    (begin : Step c q x (x.next t [] (x.works ++ [⟨α, work⟩]))) :
    ∃ y, ReflTransGen (Step c q) x y ∧ y.service = (work.run o t).2 := by
  have held : (x.next t [] (x.works ++ [⟨α, work⟩])).works = x.works ++ ⟨α, work⟩ :: [] := rfl
  obtain ⟨y, steps, same, -⟩ := steps_run c q o work _ held
  exact ⟨y, .head begin steps, same⟩

theorem steps_line (c : Collaborators π) (q : QueueSettings) (text : String) :
    ∃ y, ReflTransGen (Step c q) x y ∧ y.service = (Ingress.answer c text x.service).2 := by
  rw [← Work.run_line c nobody]
  exact steps_begun _ (.line x text)

variable {d : Delivery} {topic : Topic}

theorem steps_event (c : Collaborators π) (q : QueueSettings)
    (taken : x.service.topics.events.take? = some (d, topic)) :
    ∃ y, ReflTransGen (Step c q) x y ∧ y.service = (EventConsumer.handle c q d
      { x.service with topics := x.service.topics.set .events topic }).2 := by
  rw [← Work.run_event c nobody]
  exact steps_begun _ (.event taken)

/-- Where nothing fails and the scan lets the document pass, the processors of a line are requested. -/
theorem steps_requesting {c : Collaborators π} {line : String} {event : Event} {status : ScanStatus}
    (saves : ∀ n, c.saveFault n = none) (answers : ∀ n, c.findFault n = none)
    (scanned : c.scan event.documentId = .ok status) (passed : status ≠ .failedScan)
    (read : Command.read line = .ok (.initiate event)) (q : QueueSettings) :
    ∃ x : Affairs π, ReflTransGen (Step c q) (.start .empty) x ∧
      x.service.topics.requests.sent = event.processorIds.map (.asking event.documentId) := by
  have done : Ingress.execute c (.initiate event) { store := .empty } = (.ok (.accepted event.id),
      { store := .empty, topics := { events := { sent := [.first event.text] } },
        log := [⟨.debug, "Initiate event accepted",
          [("event_id", event.id.text), ("doc_id", event.documentId.text)]⟩] }) := rfl
  obtain ⟨x, answering, answered⟩ := steps_line (x := start .empty) c q line
  rw [start, Ingress.answer_of_ok read done] at answered
  have taken : x.service.topics.events.take? =
      some (.first event.text, ⟨[.first event.text], 1, none⟩) := by
    rw [answered]
    rfl
  obtain ⟨y, handling, handled⟩ := steps_event c q taken
  let begun : Service := { x.service with
    topics := x.service.topics.set .events ⟨[.first event.text], 1, none⟩ }
  have held : begun.store = .memory [] := by
    simp only [begun, answered]
    rfl
  have requests : begun.topics.get .requests = {} := by
    simp only [begun, answered]
    rfl
  have endless : (begun.topics.get .requests).lifetime = none := by rw [requests]
  obtain ⟨outcome, t, initiated, all, leads⟩ :=
    initiate_memory (s := { begun with log := begun.log ++ [event.received] }) saves
      (answers _) held endless scanned event.processorIds
  rw [all passed] at initiated
  have responded := EventConsumer.respond_of_ok initiated q (.first event.text)
  have carried : Event.read (Delivery.first event.text).payload = .ok event := event.read_text
  rw [EventConsumer.handle_of_read carried, responded] at handled
  have sent := Topic.sent_of_sendAll (leads.topics .requests)
  rw [if_neg passed, requests] at sent
  refine ⟨y, answering.trans handling, ?_⟩
  rw [handled]
  refine sent.trans ?_
  simp [Effect.sent, Effect.requests_requesting, missing]

end Affairs

/-- An initiation asks for the scan of its document just if processors are left, and it requests or saves something
only if the answer lets the document pass; if not, it fails and changes nothing. A scan service lets a document
pass only by a success whose body tells one of two statuses. The components do nothing but their work; and however
they take turns at it, each new request has such a lookup in front of it. -/
theorem scan_gate (c : Collaborators π) :
    (∀ process documentId processorIds again s,
      let work := Work.initiate c documentId processorIds again
      let chosen := (filter c documentId processorIds again s).1
      work.run (others c process) = (initiate c documentId processorIds again).run ∧
      (work.lookups (others c process) s = match chosen with
        | .ok (_ :: _) => [⟨documentId, c.scan documentId⟩]
        | .ok [] | .error _ => []) ∧
      ∃ outcome, ∃ effect : Effect, ∃ t,
        initiate c documentId processorIds again s = (outcome, t) ∧ effect.Leads s t ∧
        Passes c documentId chosen outcome effect ∧
        (effect.requests ≠ [] ∨ effect.rows ≠ [] →
          Clears (c.scan documentId) ∧ ∃ left, chosen = .ok left ∧ left ≠ []) ∧
        (∀ left, chosen = .ok left → left ≠ [] → ¬Clears (c.scan documentId) →
          (∃ failure, outcome = .error failure) ∧ t.store = s.store ∧ t.topics = s.topics)) ∧
    (∀ (service : ScanService) transport documentId,
      Clears (service.status transport documentId) ↔ ∃ response status,
        transport (service.request documentId) = .answered response ∧ response.isSuccess = true ∧
        response.complete = true ∧
        Json.decodeBytes ScanStatus.answerShape.decode response.body = .ok status ∧
        (status = .ready ∨ status = .awaitingScan)) ∧
    (∀ process q,
      (∀ line, (Work.line c line).run (others c process) = Ingress.answer c line) ∧
      ∀ d, (Work.event c q d).run (others c process) = EventConsumer.handle c q d ∧
        (Work.request c q d).run (others c process) = RequestConsumer.handle c q process d) ∧
    ∀ q store (x : Affairs π), ReflTransGen (Affairs.Step c q) (.start store) x →
      x.service.topics.requests.sent = x.notes.filterMap Note.posted? ∧
      ∀ before d after, x.notes = before ++ .posted d :: after → d.attempt = 1 →
        ∃ documentId processorId, d = .first (Request.text ⟨⟨processorId⟩, documentId⟩) ∧
          ∃ status, .looked ⟨documentId, .ok status⟩ ∈ before ∧ status ≠ .failedScan := by
  refine ⟨?_, ?_, ?_, ?_⟩
  · intro process documentId processorIds again s work chosen
    obtain ⟨outcome, effect, t, initiated, leads, passes⟩ :=
      initiate_passes c documentId processorIds again s
    refine ⟨Work.run_initiate c process documentId processorIds again,
      Work.lookups_initiate c documentId (others c process) processorIds again s,
      outcome, effect, t, initiated, leads, passes, passes.needs, ?_⟩
    intro left same some closed
    obtain ⟨failed, nothing⟩ := passes.refuses same some closed
    exact ⟨failed, (nothing ▸ leads).unchanged⟩
  · intro service transport documentId
    exact ScanService.clears_iff
  · intro process q
    exact ⟨Work.run_line c process, fun d => ⟨Work.run_event c process q d, Work.run_request c process q d⟩⟩
  · intro q store x steps
    have lawful := (Affairs.Lawful.start store).steps steps
    refine ⟨lawful.sent, fun before d after split first => ?_⟩
    obtain ⟨documentId, processorId, ⟨answer, looked, status, rfl, passed⟩, same⟩ :=
      lawful.notes before d after split first
    exact ⟨documentId, processorId, same, status, looked, passed⟩

/-- The processor of the odd line is requested, and a lookup has let the document pass before. -/
theorem oddLine_cleared :
    let c : Collaborators Endpoint := .reliable [] (fun _ => .ok .ready) dayClock
    ∃ x : Affairs Endpoint, ReflTransGen (Affairs.Step c {}) (.start .empty) x ∧
      x.service.topics.requests.sent = [.asking ⟨1⟩ "\x00\"\\😀"] ∧
      ∃ status, .looked ⟨⟨1⟩, .ok status⟩ ∈ x.notes ∧ status ≠ .failedScan := by
  intro c
  have ready : c.scan oddEvent.documentId = .ok .ready := rfl
  obtain ⟨x, steps, sent⟩ := Affairs.steps_requesting (fun _ => rfl) (fun _ => rfl) ready (by decide)
    read_oddLine {}
  obtain ⟨posted, gated⟩ := (scan_gate c).2.2.2 _ _ x steps
  refine ⟨x, steps, sent, ?_⟩
  have requested : .asking ⟨1⟩ "\x00\"\\😀" ∈ x.notes.filterMap Note.posted? := by
    rw [← posted, sent]
    exact List.mem_singleton_self _
  obtain ⟨note, member, same⟩ := List.mem_filterMap.mp requested
  cases note with
  | looked lookup => cases same
  | posted d =>
      obtain ⟨before, after, split⟩ := List.append_of_mem member
      have asking : d = .asking ⟨1⟩ "\x00\"\\😀" := Option.some.inj same
      obtain ⟨documentId, processorId, again, status, looked, passed⟩ :=
        gated before d after split (asking ▸ rfl)
      have document : ⟨1⟩ = documentId := (Delivery.asking_inj.mp (asking.symm.trans again)).1
      subst document
      refine ⟨status, ?_, passed⟩
      rw [split]
      exact List.mem_append_left _ looked

end Dossier.Service
