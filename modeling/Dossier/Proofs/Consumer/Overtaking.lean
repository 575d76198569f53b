import Dossier.Proofs.Consumer.Traffic
import Dossier.Proofs.Service.Latest
import Dossier.Proofs.Service.Requesting
import Mathlib.Logic.Relation

/-! # Requests that overtake their records

A request is first published and then recorded as pending, and meanwhile the consumer may take its message. So
when a delivery of a request saves the row that ends it, the pending row of that very request is there already,
unless the operation that published it has not come to save it yet. Main statements: `enqueue_moves` and
`pending_before_end`.
-/

namespace Dossier.RequestConsumer

open Service
open Relation (ReflTransGen)

/-- The first step of a request: its message is published. -/
def announce (documentId : Uuid) (processorId : String) : Attempt ServiceFailure Unit :=
  explain (.closed ·.name) (publish .requests (Request.text ⟨⟨processorId⟩, documentId⟩))

/-- The second step of a request: it is recorded as pending. -/
def record {π : Type} (c : Collaborators π) (documentId : Uuid) (processorId : String) :
    Attempt ServiceFailure Unit := do
  save c (.pending documentId processorId (← readClock c))
  tell .debug "Published processing request"
    [("doc_id", documentId.text), ("processor_id", processorId)]

/-- Processors that are requested one after the other. -/
structure Enqueue where
  documentId : Uuid
  /-- The processors that are left, the one at work included. -/
  left : List String
  /-- The number of the message of the one at work, if it is published and not recorded yet. -/
  published : Option Nat := none

/-- A service with its consumer of requests, and what requests processors meanwhile. -/
structure Scene where
  traffic : Traffic
  enqueues : List Enqueue := []
  /-- The pending rows that were saved, each with the number of the message that it belongs to. -/
  recorded : List (Nat × Row) := []

/-- What can happen next, where no collaborator fails. -/
inductive Move (c : Collaborators Endpoint) (q : QueueSettings) : Scene → Scene → Prop where
  | begin {x : Scene} (documentId : Uuid) (processorIds : List String) :
      Move c q x { x with enqueues := x.enqueues ++ [⟨documentId, processorIds, none⟩] }
  | announce {x : Scene} {before after : List Enqueue} {documentId : Uuid} {processorId : String}
      {rest : List String} {t : Service}
      (next : x.enqueues = before ++ ⟨documentId, processorId :: rest, none⟩ :: after)
      (done : announce documentId processorId x.traffic.service = (.ok (), t)) :
      Move c q x { x with
        traffic := { x.traffic with
          service := t
          posted := x.traffic.posted ++ [.asking documentId processorId]
          queue := x.traffic.queue ++
            numbered x.traffic.posted.length [.asking documentId processorId] }
        enqueues := before ++
          ⟨documentId, processorId :: rest, some x.traffic.posted.length⟩ :: after }
  | record {x : Scene} {before after : List Enqueue} {documentId : Uuid} {processorId : String}
      {rest : List String} {message : Nat} {t : Service}
      (next : x.enqueues = before ++ ⟨documentId, processorId :: rest, some message⟩ :: after)
      (done : record c documentId processorId x.traffic.service = (.ok (), t)) :
      Move c q x {
        traffic := { x.traffic with service := t }
        enqueues := before ++ ⟨documentId, rest, none⟩ :: after
        recorded := x.recorded ++
          [(message, .pending documentId processorId (c.clock x.traffic.service.readings))] }
  /-- The consumer goes on, or something else happens that publishes no request, takes no row away and does
  not turn back the clock. -/
  | other {x : Scene} {y : Traffic} (step : Step c q x.traffic y) (posted : y.posted = x.traffic.posted)
      (saved : x.traffic.service.saved <+: y.service.saved)
      (readings : x.traffic.service.readings ≤ y.service.readings) :
      Move c q x { x with traffic := y }

/-- All that can come of a service whose consumer has nothing to do. -/
inductive Scene.Reachable (c : Collaborators Endpoint) (q : QueueSettings) : Scene → Prop where
  | start {s : Service} (quiet : Quiet s) : Reachable c q { traffic := { service := s } }
  | move {x y : Scene} (reachable : Reachable c q x) (move : Move c q x y) : Reachable c q y

variable {c : Collaborators Endpoint} {q : QueueSettings} {s t : Service} {documentId : Uuid}
  {processorId : String}

theorem announce_leads (done : announce documentId processorId s = (.ok (), t)) :
    (sending .requests [.asking documentId processorId]).Leads s t := by
  rcases publish_cases .requests (Request.text ⟨⟨processorId⟩, documentId⟩) s with
    ⟨-, u, sent, leads⟩ | ⟨-, failed⟩
  · have ends : announce documentId processorId s = (.ok (), u) := explain_ok sent
    cases done.symm.trans ends
    exact leads
  · have ends : announce documentId processorId s = _ := explain_error failed
    cases done.symm.trans ends

theorem record_leads (done : record c documentId processorId s = (.ok (), t)) :
    Effect.Leads
      { rows := [.pending documentId processorId (c.clock s.readings)], readings := 1 } s t := by
  have read := leads_readings (s := s)
  rcases save_cases c (.pending documentId processorId (c.clock s.readings))
      { s with readings := s.readings + 1 } with ⟨-, u, saved, leads, -⟩ | ⟨-, failure, u, failed, -⟩
  · have ends : record c documentId processorId s = _ := (readClock_bind ..).trans (bind_ok saved)
    cases done.symm.trans ends
    exact (read.trans leads).trans (leads_log _)
  · have ends : record c documentId processorId s = _ :=
      (readClock_bind ..).trans (bind_error failed)
    cases done.symm.trans ends

/-- A request with nothing in between is two moves. -/
theorem request_moves {x : Scene} {before after : List Enqueue} {rest : List String}
    (next : x.enqueues = before ++ ⟨documentId, processorId :: rest, none⟩ :: after)
    (done : request c documentId processorId x.traffic.service = (.ok (), t)) :
    ∃ y, ReflTransGen (Move c q) x y ∧ y.traffic.service = t ∧
      y.enqueues = before ++ ⟨documentId, rest, none⟩ :: after ∧
      y.traffic.posted = x.traffic.posted ++ [.asking documentId processorId] := by
  obtain ⟨_, u, announced, recorded⟩ := of_bind_ok done
  exact ⟨_, .head (.announce next announced) (.single (.record rfl recorded)), rfl, rfl, rfl⟩

theorem enqueue_moves {processorIds : List String} {x : Scene} {before after : List Enqueue}
    (next : x.enqueues = before ++ ⟨documentId, processorIds, none⟩ :: after)
    (done : enqueue c documentId processorIds x.traffic.service = (.ok (), t)) :
    ∃ y, ReflTransGen (Move c q) x y ∧ y.traffic.service = t ∧
      y.enqueues = before ++ ⟨documentId, [], none⟩ :: after ∧
      y.traffic.posted = x.traffic.posted ++ processorIds.map (.asking documentId) := by
  induction processorIds generalizing x with
  | nil =>
      cases done
      exact ⟨x, .refl, rfl, next, by simp⟩
  | cons processorId rest ih =>
      obtain ⟨_, u, requested, enqueued⟩ := of_bind_ok done
      obtain ⟨y, first, rfl, left, posted⟩ := request_moves next requested
      obtain ⟨z, others, ends, done, all⟩ := ih left enqueued
      exact ⟨z, first.trans others, ends, done, by simp [all, posted]⟩

variable {x y : Traffic} {report : Report}

/-- What the consumer holds of the message of a request is the text of that request. -/
theorem Orderly.payload (orderly : Orderly c q x) {hand : Hand} {others : List Hand}
    (held : x.hands.Perm (hand :: others)) {request : Request}
    (found : x.posted[hand.copy.message]? = some (.first request.text)) :
    hand.copy.delivery.payload = request.text := by
  have first : x.copies.Perm
      (hand.copy :: (x.queue ++ x.delayed ++ others.map (·.copy))) :=
    ((held.map _).append_left _).trans List.perm_middle
  have chain := (orderly.ledger.perm first).chains hand.copy.message request found
  have own : copiesOf hand.copy.message
      (hand.copy :: (x.queue ++ x.delayed ++ others.map (·.copy))) = hand.copy.delivery ::
        copiesOf hand.copy.message (x.queue ++ x.delayed ++ others.map (·.copy)) := by
    simp [copiesOf]
  rw [own] at chain
  exact chain.payload

theorem Orderly.known (orderly : Orderly c q x) {hand : Hand} {others : List Hand}
    (held : x.hands.Perm (hand :: others)) : hand.copy.message < x.posted.length := by
  apply orderly.ledger.known
  refine List.mem_append_right _ (List.mem_map.mpr ⟨hand, ?_, rfl⟩)
  exact held.mem_iff.mpr List.mem_cons_self

/-- Whether all messages that were posted are requests. -/
def AllRequests (posted : List Delivery) : Prop :=
  ∀ d ∈ posted, ∃ documentId processorId, d = .asking documentId processorId

theorem AllRequests.found {posted : List Delivery} (requests : AllRequests posted) {message : Nat}
    (known : message < posted.length) :
    ∃ documentId processorId, posted[message]? = some (.asking documentId processorId) := by
  obtain ⟨documentId, processorId, same⟩ := requests _ (List.getElem_mem known)
  exact ⟨documentId, processorId, by rw [List.getElem?_eq_getElem known, same]⟩

/-- What comes of a delivery that was handled is for the request of its message. -/
theorem Step.advances
    (goes : ∀ id processor, c.registry.find? id = some processor → processor.id = id)
    (orderly : Orderly c q x) (requests : AllRequests x.posted) (step : Step c q x y)
    (handled : y.reports = x.reports ++ [report]) :
    ∃ documentId processorId, x.posted[report.message]? = some (.asking documentId processorId) ∧
      Advances c ⟨⟨processorId⟩, documentId⟩ x.service y.service ∧
      report.rows = y.service.saved.drop x.service.saved.length := by
  have silent {reports : List Report} (same : reports = reports ++ [report]) : False := by simp at same
  cases step with
  | outside | take | call | resend => exact (silent handled).elim
  | dispatch held started =>
      obtain ⟨-, same⟩ := List.append_inj' handled rfl
      cases same
      obtain ⟨documentId, processorId, found⟩ := requests.found (orderly.known held)
      have payload := orderly.payload held found
      have read := Request.read_text ⟨⟨processorId⟩, documentId⟩
      rw [← payload] at read
      exact ⟨documentId, processorId, found, start_advances read started, rfl⟩
  | finish held exchange finished =>
      obtain ⟨-, same⟩ := List.append_inj' handled rfl
      cases same
      obtain ⟨documentId, processorId, found⟩ := requests.found (orderly.known held)
      have payload := orderly.payload held found
      obtain ⟨read, named⟩ := orderly.hands _ (held.mem_iff.mpr List.mem_cons_self) _ _ rfl
      simp only at read payload
      rw [payload, Request.read_text] at read
      cases read
      exact ⟨documentId, processorId, found, finish_advances (goes _ _ named) exchange finished, rfl⟩

/-- Whether a pending row that was saved is the one of its message. -/
def IsRecord (c : Collaborators Endpoint) (x : Traffic) (note : Nat × Row) : Prop :=
  ∃ documentId processorId reading,
    x.posted[note.1]? = some (.asking documentId processorId) ∧ reading < x.service.readings ∧
      note.2 = .pending documentId processorId (c.clock reading) ∧ note.2 ∈ x.service.saved

/-- Whether the message that was published is the one of the processor at work. -/
def Enqueue.IsAt (x : Traffic) (e : Enqueue) : Prop :=
  ∀ message, e.published = some message → ∃ processorId rest, e.left = processorId :: rest ∧
    x.posted[message]? = some (.asking e.documentId processorId)

/-- Whether messages, rows and readings of the clock were at most added. -/
structure Grows (x y : Traffic) : Prop where
  posted : x.posted <+: y.posted
  saved : x.service.saved <+: y.service.saved
  readings : x.service.readings ≤ y.service.readings

theorem Grows.found (grows : Grows x y) {message : Nat} {d : Delivery}
    (found : x.posted[message]? = some d) : y.posted[message]? = some d := by
  obtain ⟨more, posted⟩ := grows.posted
  obtain ⟨known, -⟩ := List.getElem?_eq_some_iff.mp found
  rw [← posted, List.getElem?_append_left known]
  exact found

theorem IsRecord.grow {note : Nat × Row} (isRecord : IsRecord c x note) (grows : Grows x y) :
    IsRecord c y note := by
  obtain ⟨documentId, processorId, reading, found, less, same, saved⟩ := isRecord
  exact ⟨documentId, processorId, reading, grows.found found, Nat.lt_of_lt_of_le less grows.readings,
    same, grows.saved.subset saved⟩

theorem Enqueue.IsAt.grow {e : Enqueue} (isAt : e.IsAt x) (grows : Grows x y) : e.IsAt y := by
  intro message published
  obtain ⟨processorId, rest, left, found⟩ := isAt message published
  exact ⟨processorId, rest, left, grows.found found⟩

/-- What holds at all times: each message is that of one request, which is either recorded or still to be
recorded by the one that published it. -/
structure Accounted (c : Collaborators Endpoint) (q : QueueSettings) (x : Scene) : Prop where
  orderly : Orderly c q x.traffic
  requests : AllRequests x.traffic.posted
  messages : (x.recorded.map (·.1) ++ x.enqueues.filterMap (·.published)).Perm
    (List.range x.traffic.posted.length)
  recorded : ∀ note ∈ x.recorded, IsRecord c x.traffic note
  enqueues : ∀ e ∈ x.enqueues, e.IsAt x.traffic

namespace Accounted

variable {x : Scene} {before after : List Enqueue} {rest : List String} {message : Nat}

theorem start (quiet : Quiet s) : Accounted c q { traffic := { service := s } } where
  orderly := quiet.orderly
  requests := by simp [AllRequests]
  messages := .refl _
  recorded := by simp
  enqueues := by simp

theorem begin (accounted : Accounted c q x) (documentId : Uuid) (processorIds : List String) :
    Accounted c q { x with enqueues := x.enqueues ++ [⟨documentId, processorIds, none⟩] } :=
  { accounted with
    messages := by simpa using accounted.messages
    enqueues := by
      intro e member
      rcases List.mem_append.mp member with old | new
      · exact accounted.enqueues e old
      · rw [List.mem_singleton.mp new]
        intro message published
        cases published }

theorem announce (accounted : Accounted c q x)
    (next : x.enqueues = before ++ ⟨documentId, processorId :: rest, none⟩ :: after)
    (done : RequestConsumer.announce documentId processorId x.traffic.service = (.ok (), t)) :
    Accounted c q { x with
      traffic := { x.traffic with
        service := t
        posted := x.traffic.posted ++ [.asking documentId processorId]
        queue := x.traffic.queue ++
          numbered x.traffic.posted.length [.asking documentId processorId] }
      enqueues := before ++
        ⟨documentId, processorId :: rest, some x.traffic.posted.length⟩ :: after } := by
  have leads := announce_leads done
  have orderly := accounted.orderly
  have outside := outside_of_leads leads orderly.requests orderly.completions
  let y : Traffic := { x.traffic with
    service := t
    posted := x.traffic.posted ++ [.asking documentId processorId]
    queue := x.traffic.queue ++ numbered x.traffic.posted.length [.asking documentId processorId] }
  have grows : Grows x.traffic y := ⟨List.prefix_append _ _,
    by rw [leads.saved]; exact List.prefix_append _ _,
    by rw [leads.readings]; exact Nat.le_add_right _ _⟩
  exact {
    orderly := orderly.outside outside
    requests := List.forall_mem_append.mpr ⟨accounted.requests, by
      simp only [List.mem_singleton, forall_eq]
      exact ⟨documentId, processorId, rfl⟩⟩
    messages := by
      -- The number that is new is the next one, and the one at work has it.
      have messages := accounted.messages
      simp only [next, List.perm_iff_count, List.filterMap_append, List.filterMap_cons, List.count_append,
        List.count_cons, List.length_append, List.length_singleton, List.range_succ, List.count_nil]
        at messages ⊢
      intro number
      have same := messages number
      omega
    recorded := fun note member => (accounted.recorded note member).grow grows
    enqueues := by
      intro e member
      rcases List.mem_append.mp member with old | member
      · exact (accounted.enqueues e (by rw [next]; exact List.mem_append_left _ old)).grow grows
      · rcases List.mem_cons.mp member with rfl | old
        · intro message published
          cases published
          exact ⟨processorId, rest, rfl, by simp⟩
        · exact (accounted.enqueues e (by simp [next, old])).grow grows }

theorem record (accounted : Accounted c q x)
    (next : x.enqueues = before ++ ⟨documentId, processorId :: rest, some message⟩ :: after)
    (done : RequestConsumer.record c documentId processorId x.traffic.service = (.ok (), t)) :
    Accounted c q {
      traffic := { x.traffic with service := t }
      enqueues := before ++ ⟨documentId, rest, none⟩ :: after
      recorded := x.recorded ++
        [(message, .pending documentId processorId (c.clock x.traffic.service.readings))] } := by
  have leads := record_leads done
  have orderly := accounted.orderly
  have outside := outside_of_leads leads orderly.requests orderly.completions
  have grows : Grows x.traffic { x.traffic with service := t } := ⟨List.prefix_refl _,
    by rw [leads.saved]; exact List.prefix_append _ _,
    by rw [leads.readings]; exact Nat.le_add_right _ _⟩
  have working : (⟨documentId, processorId :: rest, some message⟩ : Enqueue) ∈ x.enqueues := by
    rw [next]
    exact List.mem_append_right _ List.mem_cons_self
  obtain ⟨processorId', rest', left, found⟩ := accounted.enqueues _ working message rfl
  cases left
  exact {
    orderly := by simpa [numbered] using orderly.outside outside
    requests := accounted.requests
    messages := by
      -- The number goes over from the one at work to those that are recorded.
      have messages := accounted.messages
      simp only [next, List.perm_iff_count, List.filterMap_append, List.filterMap_cons, List.count_append,
        List.count_cons, List.map_append, List.map_cons, List.map_nil, List.count_nil] at messages ⊢
      intro number
      have same := messages number
      omega
    recorded := by
      intro note member
      rcases List.mem_append.mp member with old | new
      · exact (accounted.recorded note old).grow grows
      · rw [List.mem_singleton.mp new]
        refine ⟨documentId, processorId, x.traffic.service.readings, found, ?_, rfl, ?_⟩
        · simp [leads.readings]
        · simp [leads.saved]
    enqueues := by
      intro e member
      rcases List.mem_append.mp member with old | member
      · exact (accounted.enqueues e (by rw [next]; exact List.mem_append_left _ old)).grow grows
      · rcases List.mem_cons.mp member with rfl | old
        · intro message published
          cases published
        · exact (accounted.enqueues e (by simp [next, old])).grow grows }

theorem move (goes : ∀ id processor, c.registry.find? id = some processor → processor.id = id)
    (accounted : Accounted c q x) {y : Scene} (move : Move c q x y) : Accounted c q y := by
  cases move with
  | begin documentId processorIds => exact accounted.begin documentId processorIds
  | announce next done => exact accounted.announce next done
  | record next done => exact accounted.record next done
  | other step posted saved readings =>
      have grows : Grows x.traffic _ := ⟨posted ▸ List.prefix_refl _, saved, readings⟩
      exact {
        orderly := accounted.orderly.step goes step
        requests := posted ▸ accounted.requests
        messages := posted ▸ accounted.messages
        recorded := fun note member => (accounted.recorded note member).grow grows
        enqueues := fun e member => (accounted.enqueues e member).grow grows }

/-- To handle a delivery is a move. -/
theorem handled_moves
    (goes : ∀ id processor, c.registry.find? id = some processor → processor.id = id)
    (accounted : Accounted c q x) {y : Traffic} {report : Report} (step : Step c q x.traffic y)
    (posted : y.posted = x.traffic.posted) (handled : y.reports = x.traffic.reports ++ [report]) :
    Move c q x { x with traffic := y } := by
  obtain ⟨_, _, -, advances, -⟩ := step.advances goes accounted.orderly accounted.requests handled
  obtain ⟨rows, saved, -⟩ := advances.saved
  exact .other step posted (saved ▸ List.prefix_append _ _) advances.readings

/-- Whatever the consumer does itself is a move: it publishes no request, takes no row away and does not turn
back the clock. -/
theorem consumer_moves
    (goes : ∀ id processor, c.registry.find? id = some processor → processor.id = id)
    (accounted : Accounted c q x) {y : Traffic} (step : Step c q x.traffic y) :
    (∃ t fresh, Outside x.traffic.service t fresh ∧ y = { x.traffic with
      service := t
      posted := x.traffic.posted ++ fresh
      queue := x.traffic.queue ++ numbered x.traffic.posted.length fresh }) ∨
    Move c q x { x with traffic := y } := by
  cases step with
  | outside h => exact .inl ⟨_, _, h, rfl⟩
  | take taken first =>
      exact .inr (.other (.take taken first) rfl (List.prefix_refl _) (Nat.le_refl _))
  | call held started =>
      obtain ⟨-, -, rfl⟩ := start_calls started
      exact .inr (.other (.call held started) rfl (List.prefix_refl _) (Nat.le_refl _))
  | dispatch held started =>
      exact .inr (accounted.handled_moves goes (.dispatch held started) rfl rfl)
  | finish held exchange finished =>
      exact .inr (accounted.handled_moves goes (.finish held exchange finished) rfl rfl)
  | @resend before after r front back copy due channel delayed place =>
      have endless : (x.traffic.service.topics.get r.channel).lifetime = none := by
        rw [channel]
        exact accounted.orderly.requests
      obtain ⟨told, sent⟩ := resend_of_endless
        (s := { x.traffic.service with agenda := before ++ after }) endless
      exact .inr (.other (.resend due channel delayed place) rfl
        (sent ▸ List.prefix_refl _) (sent ▸ Nat.le_refl _))

theorem recorded_or_working (accounted : Accounted c q x)
    (found : x.traffic.posted[message]? = some (.asking documentId processorId)) :
    (∃ reading < x.traffic.service.readings,
      (message, .pending documentId processorId (c.clock reading)) ∈ x.recorded ∧
        .pending documentId processorId (c.clock reading) ∈ x.traffic.service.saved) ∨
      (∀ note ∈ x.recorded, note.1 ≠ message) ∧
        ∃ e ∈ x.enqueues, e.documentId = documentId ∧ e.left.head? = some processorId ∧
          e.published = some message := by
  obtain ⟨known, -⟩ := List.getElem?_eq_some_iff.mp found
  have own {documentId' : Uuid} {processorId' : String}
      (found' : x.traffic.posted[message]? = some (.asking documentId' processorId')) :
      documentId = documentId' ∧ processorId = processorId' :=
    Delivery.asking_inj.mp (Option.some.inj (found.symm.trans found'))
  have listed := accounted.messages.mem_iff.mpr (List.mem_range.mpr known)
  rcases List.mem_append.mp listed with told | working
  · left
    obtain ⟨⟨_, note⟩, member, rfl⟩ := List.mem_map.mp told
    obtain ⟨documentId', processorId', reading, found', less, dated, kept⟩ := accounted.recorded _ member
    obtain ⟨rfl, rfl⟩ := own found'
    subst dated
    exact ⟨reading, less, member, kept⟩
  · right
    obtain ⟨e, member, published⟩ := List.mem_filterMap.mp working
    obtain ⟨processorId', rest, left, found'⟩ := accounted.enqueues e member _ published
    obtain ⟨rfl, rfl⟩ := own found'
    refine ⟨fun note recorded same => ?_, e, member, rfl, by rw [left]; rfl, published⟩
    -- No message has two places.
    have distinct := accounted.messages.nodup_iff.mpr List.nodup_range
    have apart := (List.nodup_append.mp distinct).2.2
    exact apart note.1 (List.mem_map.mpr ⟨note, recorded, rfl⟩) message working same

end Accounted

theorem Scene.Reachable.accounted
    (goes : ∀ id processor, c.registry.find? id = some processor → processor.id = id) {x : Scene}
    (reachable : Scene.Reachable c q x) : Accounted c q x := by
  induction reachable with
  | start quiet => exact .start quiet
  | move _ move ih => exact ih.move goes move

/-- When a delivery saves a row, the row ends the request of its message, and one of two things holds. Either
the pending row of that request is saved already, by a reading of the clock that is not later than a refusal.
Or it is not, and the one that published the message is still to save it, as its very next step. -/
theorem pending_before_end (c : Collaborators Endpoint) (processors : List (String × Endpoint))
    (q : QueueSettings) (forward : ∀ n, (c.clock n).le (c.clock (n + 1)) = true) {x y : Scene}
    (reachable : Scene.Reachable { c with registry := .ofList processors } q x)
    (move : Move { c with registry := .ofList processors } q x y) {report : Report}
    (handled : y.traffic.reports = x.traffic.reports ++ [report]) {row : Row}
    (saved : row ∈ report.rows) :
    ∃ documentId processorId,
      x.traffic.posted[report.message]? = some (.asking documentId processorId) ∧
      row.documentId = documentId ∧ row.processorId = processorId ∧ row.status.isTerminal = true ∧
      ((∃ time, (report.message, .pending documentId processorId time) ∈ x.recorded ∧
          .pending documentId processorId time ∈ x.traffic.service.saved ∧
          (row.status = .unprocessable → time.le row.timestamp = true)) ∨
        (∀ note ∈ x.recorded, note.1 ≠ report.message) ∧
          ∃ e ∈ x.enqueues, e.documentId = documentId ∧ e.left.head? = some processorId ∧
            e.published = some report.message) := by
  have goes := goes_ofList processors
  have accounted := reachable.accounted goes
  have silent {reports : List Report} (same : reports = reports ++ [report]) : False := by simp at same
  cases move with
  | begin | announce | record => exact (silent handled).elim
  | other step =>
      obtain ⟨documentId, processorId, found, advances, rows⟩ :=
        step.advances goes accounted.orderly accounted.requests handled
      obtain ⟨added, after, ends⟩ := advances.saved
      rw [after, List.drop_left] at rows
      have ending := ends row (rows ▸ saved)
      refine ⟨documentId, processorId, found, ending.pair.1, ending.pair.2, ending.isTerminal, ?_⟩
      refine (accounted.recorded_or_working found).imp_left ?_
      rintro ⟨reading, less, recorded, kept⟩
      refine ⟨c.clock reading, recorded, kept, fun refused => ?_⟩
      cases ending with
      | result complete =>
          rw [complete] at refused
          cases refused
      | refusal => exact clock_le forward (Nat.le_of_lt less)

/-- Collaborators with no processors and a clock that goes on. -/
def watched : Collaborators Endpoint := { unmanned with clock := dayClock }

/-- A message that asks for pages. -/
def pagesMessage : Delivery := .asking ⟨1⟩ "pages"

theorem read_pagesMessage : Request.read pagesMessage.payload = .ok ⟨⟨"pages"⟩, ⟨1⟩⟩ :=
  Request.read_text _

/-- A request is recorded, and then its message is taken and refused. -/
theorem recorded_before_refused : ∃ x y report time,
    Scene.Reachable watched {} x ∧ Move watched {} x y ∧
      y.traffic.reports = x.traffic.reports ++ [report] ∧
      report.rows = [.unprocessable ⟨1⟩ "pages" "processor not found" (dayClock 1)] ∧
      .pending ⟨1⟩ "pages" time ∈ x.traffic.service.saved ∧ time.le (dayClock 1) = true := by
  let s : Service := { store := .empty }
  let announced : Service := { s with topics := { requests := { sent := [pagesMessage] } } }
  let recorded : Service := (RequestConsumer.record watched ⟨1⟩ "pages" announced).2
  let taken : Service := { recorded with topics := { requests := { sent := [pagesMessage], taken := 1 } } }
  have quiet : Quiet s := ⟨rfl, rfl, rfl, rfl⟩
  have first : RequestConsumer.announce ⟨1⟩ "pages" s = (.ok (), announced) := rfl
  have second : RequestConsumer.record watched ⟨1⟩ "pages" announced = (.ok (), recorded) := rfl
  have topic : recorded.topics.requests.take? = some (pagesMessage, taken.topics.requests) := rfl
  have alone (published : Option Nat) : ([⟨⟨1⟩, ["pages"], published⟩] : List Enqueue) =
    [] ++ ⟨⟨1⟩, ["pages"], published⟩ :: [] := rfl
  have noted := (((Scene.Reachable.start (c := watched) (q := {}) quiet).move
    (.begin ⟨1⟩ ["pages"])).move (.announce (alone none) first)).move (.record (alone (some 0)) second)
  have held := noted.move (.other (.take topic rfl) rfl (List.prefix_refl _) (Nat.le_refl _))
  obtain ⟨receipt, t, started, saved⟩ : ∃ receipt t,
      start watched {} pagesMessage taken = (.done receipt, t) ∧
        t.saved.drop 1 = [.unprocessable ⟨1⟩ "pages" "processor not found" (dayClock 1)] := by
    rw [start_of_read read_pagesMessage]
    exact ⟨_, _, rfl, rfl⟩
  have refused := (held.accounted (goes_ofList [])).handled_moves (goes_ofList [])
    (.dispatch (.refl _) started) rfl rfl
  obtain ⟨documentId, processorId, found, -, -, -, inTime | ⟨unrecorded, -⟩⟩ :=
    pending_before_end watched [] {} dayClock_le held refused rfl (saved ▸ List.mem_singleton_self _)
  · obtain ⟨rfl, rfl⟩ := Delivery.asking_inj.mp (Option.some.inj found)
    obtain ⟨time, -, kept, order⟩ := inTime
    exact ⟨_, _, _, time, held, refused, rfl, saved, kept, order rfl⟩
  · exact absurd rfl (unrecorded _ (List.mem_singleton_self _))

/-- A message is taken and refused before its request is recorded, so the pending row comes after the one that
ends the request, and is dated later. -/
theorem refused_before_recorded : ∃ x y z report,
    Scene.Reachable watched {} x ∧ Move watched {} x y ∧ Move watched {} y z ∧
      y.traffic.reports = x.traffic.reports ++ [report] ∧
      report.rows = [.unprocessable ⟨1⟩ "pages" "processor not found" (dayClock 0)] ∧
      x.traffic.service.saved = [] ∧
      z.recorded = [(report.message, .pending ⟨1⟩ "pages" (dayClock 1))] ∧
      z.traffic.service.saved = [.unprocessable ⟨1⟩ "pages" "processor not found" (dayClock 0),
        .pending ⟨1⟩ "pages" (dayClock 1)] := by
  let s : Service := { store := .empty }
  let announced : Service := { s with topics := { requests := { sent := [pagesMessage] } } }
  let taken : Service := { s with topics := { requests := { sent := [pagesMessage], taken := 1 } } }
  have quiet : Quiet s := ⟨rfl, rfl, rfl, rfl⟩
  have first : RequestConsumer.announce ⟨1⟩ "pages" s = (.ok (), announced) := rfl
  have topic : announced.topics.requests.take? = some (pagesMessage, taken.topics.requests) := rfl
  have alone (published : Option Nat) : ([⟨⟨1⟩, ["pages"], published⟩] : List Enqueue) =
    [] ++ ⟨⟨1⟩, ["pages"], published⟩ :: [] := rfl
  have published := ((Scene.Reachable.start (c := watched) (q := {}) quiet).move
    (.begin ⟨1⟩ ["pages"])).move (.announce (alone none) first)
  have held := published.move (.other (.take topic rfl) rfl (List.prefix_refl _) (Nat.le_refl _))
  obtain ⟨receipt, t, started, u, second, saved, later, reading⟩ : ∃ receipt t,
      start watched {} pagesMessage taken = (.done receipt, t) ∧ ∃ u,
        RequestConsumer.record watched ⟨1⟩ "pages" t = (.ok (), u) ∧
        t.saved = [.unprocessable ⟨1⟩ "pages" "processor not found" (dayClock 0)] ∧
        u.saved = t.saved ++ [.pending ⟨1⟩ "pages" (dayClock 1)] ∧ t.readings = 1 := by
    rw [start_of_read read_pagesMessage]
    exact ⟨_, _, rfl, _, rfl, rfl, rfl, rfl⟩
  have refused := (held.accounted (goes_ofList [])).handled_moves (goes_ofList [])
    (.dispatch (.refl _) started) rfl rfl
  rw [saved] at later
  refine ⟨_, _, _, _, held, refused, .record (alone (some 0)) second, rfl, saved, rfl, ?_, later⟩
  simp [Traffic.handled, reading, watched, Report.of]

end Dossier.RequestConsumer
