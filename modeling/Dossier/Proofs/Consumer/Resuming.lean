import Dossier.Proofs.Consumer.Stopping

/-! # Events that are tried again

An event whose handling failed for now is tried again, and goes on where the last try has stopped: the pending rows
tell who was requested before. Each try may fail at any question, scan, message or row, and others may do anything in
between but save rows of the document. Main statement: `resumed`.
-/

namespace Dossier.Service

variable {π : Type} {documentId : Uuid} {processorId : String} {s t : Service} {marks : List Mark}
  {outcome : Except ServiceFailure Unit} {o : Others π} {meanwhile : Service → Service → Prop}

namespace Work

variable {c : Collaborators π}

/-- The work on an event until it is known what comes of it. -/
def handling (c : Collaborators π) (event : Event) : Work π (Except ServiceFailure Unit) := do
  tell .debug "Received event" [("event_id", event.id.text), ("event_type", event.kind)]
  initiate c event.documentId event.processorIds false

/-- What is left to do once it is known what has come of an event. -/
def settle (q : QueueSettings) (d : Delivery) (event : Event) (outcome : Except ServiceFailure Unit) :
    Work π Receipt :=
  Procedure.report event outcome >>= Procedure.acknowledge q d

theorem event_of_read {q : QueueSettings} {d : Delivery} {event : Event} (read : Event.read d.payload = .ok event) :
    Work.event c q d = handling c event >>= settle q d event := by
  simp only [Work.event, Procedure.consumeEvent, read, Procedure.respond, Procedure.handleEvent, handling, bind_assoc]
  rfl

theorem settle_error (q : QueueSettings) (d : Delivery) (event : Event) (failure : ServiceFailure) :
    (settle q d event (.error failure) : Work π Receipt) =
      tell .error "Error processing document"
        [("event_id", event.id.text), ("doc_id", event.documentId.text), ("error", failure.chainText)] >>= fun _ =>
      Procedure.acknowledge q d (.error ⟨event.id.text, failure⟩) := rfl

/-- How a try ends, by what has come of the event. -/
inductive Settles (q : QueueSettings) (d : Delivery) :
    Except ServiceFailure Unit → List Mark → Receipt → Prop where
  | done : Settles q d (.ok ()) [] .ack
  | final {failure : ServiceFailure} (lasting : failure.isTransient = false) : Settles q d (.error failure) [] .ack
  | again {failure : ServiceFailure} (transient : failure.isTransient = true) (few : d.attempt < q.maxDeliveries)
      (due : Nat) : Settles q d (.error failure) [.putOff ⟨due, .events, d.again⟩] .nack
  | spent {failure : ServiceFailure} (transient : failure.isTransient = true) (many : q.maxDeliveries ≤ d.attempt) :
      Settles q d (.error failure) [] .nack

theorem Settles.no_asks {q : QueueSettings} {d : Delivery} {receipt : Receipt}
    (settles : Settles q d outcome marks receipt) (documentId : Uuid) (processorId : String) :
    marks.countP (Mark.asks documentId processorId) = 0 := by
  cases settles with
  | done | final | again | spent => rfl

theorem Settles.no_records {q : QueueSettings} {d : Delivery} {receipt : Receipt}
    (settles : Settles q d outcome marks receipt) (documentId : Uuid) (processorId : String) :
    marks.any (Mark.records documentId processorId) = false := by
  cases settles with
  | done | final | again | spent => rfl

theorem runs_settle {q : QueueSettings} {d : Delivery} {event : Event} {receipt : Receipt}
    (runs : (settle q d event outcome : Work π Receipt).Runs o meanwhile s marks receipt t) :
    Settles q d outcome marks receipt := by
  cases outcome with
  | ok =>
      obtain ⟨rfl, rfl, -⟩ := runs
      exact .done
  | error failure =>
      rw [settle_error] at runs
      obtain ⟨-, u, -, -, told⟩ := runs_tell_bind runs
      unfold Procedure.acknowledge at told
      cases transient : failure.isTransient with
      | false =>
          simp only [transient, Bool.false_eq_true, if_false] at told
          obtain ⟨rfl, rfl, -⟩ := told
          exact .final transient
      | true =>
          simp only [transient, if_true] at told
          obtain ⟨-, v, -, -, warned⟩ := runs_tell_bind told
          obtain ⟨w, none, -, rfl, rfl, rfl, -⟩ := warned
          rw [List.append_nil]
          rcases Nat.lt_or_ge d.attempt q.maxDeliveries with few | many
          · rw [Act.marks_putOff_of_lt o w few]
            exact .again transient few _
          · rw [Act.marks_putOff_of_le o w many]
            exact .spent transient many

theorem store_putOff (channel : Channel) (d : Delivery) (delay limit : Nat) (s : Service) :
    (Service.putOff channel d delay limit s).2.store = s.store := by
  rcases Nat.lt_or_ge d.attempt limit with few | many
  · rw [putOff_of_lt few]
  · rw [putOff_of_le many]

/-- Once it is known what has come of an event its store stays as it is. -/
theorem store_settle (o : Others π) (q : QueueSettings) (d : Delivery) (event : Event)
    (outcome : Except ServiceFailure Unit) (s : Service) :
    ((settle q d event outcome).run o s).2.store = s.store := by
  cases outcome with
  | ok => rfl
  | error failure =>
      simp only [settle_error, run_bind, run_tell, Procedure.acknowledge]
      cases failure.isTransient with
      | false => rfl
      | true => exact store_putOff .events d q.redeliveryDelayMs q.maxDeliveries _

end Work

/-- A delivery of an event that was handled. -/
structure Try where
  delivery : Delivery
  before : Service
  /-- What the handling left behind. -/
  marks : List Mark
  /-- What has come of the event. -/
  outcome : Except ServiceFailure Unit
  receipt : Receipt
  after : Service

namespace Try

variable {q : QueueSettings} {event : Event} {x y : Try}

/-- The deliveries that were put off. -/
def redeliveries (x : Try) : List Redelivery := x.marks.filterMap Mark.redelivery?

/-- How many requests for a processor on a document were sent. -/
def requests (documentId : Uuid) (processorId : String) (x : Try) : Nat :=
  x.marks.countP (Mark.asks documentId processorId)

/-- Whether a row of a document and a processor was saved. -/
def records (documentId : Uuid) (processorId : String) (x : Try) : Bool :=
  x.marks.any (Mark.records documentId processorId)

/-- Whether the row of a document and a processor was refused directly after the request for it was sent. -/
def loses (documentId : Uuid) (processorId : String) (x : Try) : Bool :=
  Mark.lost documentId processorId x.marks

/-- Whether an event is handled by its consumer, with whomever it works, while others leave the rows of the document
alone. -/
def Handles (π : Type) (q : QueueSettings) (event : Event) (x : Try) : Prop :=
  Event.read x.delivery.payload = .ok event ∧
    ∃ (c : Collaborators π) (o : Others π) (first later : List Mark) (u : Service),
      (Work.handling c event).Runs o (Spares event.documentId) x.before first x.outcome u ∧
      (Work.settle q x.delivery event x.outcome).Runs o (Spares event.documentId) u later x.receipt x.after ∧
      x.marks = first ++ later

/-- The handling of a delivery without a break is a try. -/
theorem handles_of_handle (c : Collaborators π) {d : Delivery} (read : Event.read d.payload = .ok event)
    (s : Service) :
    ∃ x : Try, x.Handles π q event ∧ x.delivery = d ∧ x.before = s ∧
      (x.receipt, x.after) = EventConsumer.handle c q d s ∧
      ∃ t, initiate c event.documentId event.processorIds false { s with log := s.log ++ [event.received] } =
        (x.outcome, t) ∧ x.after.store = t.store := by
  let o := others c fun _ _ => .error .invalidResponse
  have idle (s : Service) : Spares event.documentId s s := rfl
  rcases ended : initiate c event.documentId event.processorIds false
    { s with log := s.log ++ [event.received] } with ⟨outcome, u⟩
  have begun : (Work.handling c event).run o s = (outcome, u) := by
    rw [Work.handling, Work.run_bind, Work.run_initiate]
    exact ended
  have whole : EventConsumer.handle c q d s = (Work.settle q d event outcome).run o u := by
    rw [← Work.run_event c (fun _ _ => .error .invalidResponse) q d, Work.event_of_read read, Work.run_bind]
    exact congrArg (fun after : _ × Service => (Work.settle q d event after.1).run o after.2) begun
  obtain ⟨first, handled⟩ := Work.runs_run o idle (Work.handling c event) s
  obtain ⟨later, settled⟩ := Work.runs_run o idle (Work.settle q d event outcome) u
  rw [begun] at handled
  rw [whole]
  have handles : Handles π q event ⟨d, s, first ++ later, outcome, _, _⟩ :=
    ⟨read, c, o, first, later, u, handled, settled, rfl⟩
  exact ⟨_, handles, rfl, rfl, rfl, u, rfl, Work.store_settle o q d event outcome u⟩

namespace Handles

variable (handles : Handles π q event x)

include handles

/-- What a try leaves behind, and how it ends. -/
theorem cases : ∃ first later, x.marks = first ++ later ∧
    Leaves event.documentId (event.processorIds.filter fun id => !x.before.store.knows event.documentId id) first
      x.outcome ∧
    Work.Settles q x.delivery x.outcome later x.receipt ∧ Learns event.documentId x.before x.marks x.after := by
  obtain ⟨-, c, o, first, later, u, handled, settled, same⟩ := handles
  obtain ⟨v, w, before, kept, initiated⟩ := Work.runs_tell_bind handled
  have leaves := Work.runs_initiate initiated
  simp only [kept, before.knows] at leaves
  refine ⟨first, later, same, leaves, Work.runs_settle settled, ?_⟩
  rw [same]
  exact handled.learns.trans settled.learns

variable (processorId : String)

theorem requests_le_left : x.requests event.documentId processorId ≤
    (event.processorIds.filter fun id => !x.before.store.knows event.documentId id).count processorId := by
  obtain ⟨first, later, same, leaves, settles, -⟩ := handles.cases
  rw [requests, same, List.countP_append, settles.no_asks, Nat.add_zero]
  exact leaves.asks_le processorId

theorem requests_le_count : x.requests event.documentId processorId ≤ event.processorIds.count processorId :=
  (handles.requests_le_left processorId).trans (List.filter_sublist.count_le processorId)

/-- Of a processor that was known before no request is sent. -/
theorem requests_of_known (known : x.before.store.knows event.documentId processorId = true) :
    x.requests event.documentId processorId = 0 := by
  have least := handles.requests_le_left processorId
  rwa [List.count_eq_zero_of_not_mem (by simp [known]), Nat.le_zero] at least

/-- Of a processor that no row is saved of at most one request is sent, whose row is refused then. -/
theorem requests_le_loses (unrecorded : x.records event.documentId processorId = false) :
    x.requests event.documentId processorId ≤ (x.loses event.documentId processorId).toNat := by
  obtain ⟨first, later, same, leaves, settles, -⟩ := handles.cases
  rw [records, same, List.any_append, Bool.or_eq_false_iff] at unrecorded
  have none : first.countP (Mark.records event.documentId processorId) = 0 := by
    simpa using unrecorded.1
  have few := leaves.asks_le_records processorId
  rw [none, Nat.zero_add] at few
  rw [requests, loses, same, List.countP_append, settles.no_asks, Nat.add_zero]
  refine few.trans ?_
  cases lost : Mark.lost event.documentId processorId first with
  | false => exact Nat.zero_le _
  | true => rw [Mark.lost_append later lost]

/-- Of a processor whose row is saved a request is sent. -/
theorem requests_pos (recorded : x.records event.documentId processorId = true) :
    0 < x.requests event.documentId processorId := by
  obtain ⟨first, later, same, leaves, settles, -⟩ := handles.cases
  rw [records, same, List.any_append, settles.no_records, Bool.or_false] at recorded
  have asked := leaves.asked_of_recorded processorId recorded
  rw [requests, same, List.countP_append]
  exact Nat.add_pos_left (List.countP_pos_iff.mpr (List.any_eq_true.mp asked)) _

theorem knows_after : x.after.store.knows event.documentId processorId =
    (x.before.store.knows event.documentId processorId || x.records event.documentId processorId) := by
  obtain ⟨first, later, -, -, -, learns⟩ := handles.cases
  exact learns processorId

/-- Once an event was handled all its processors are known. -/
theorem known_of_ok (done : x.outcome = .ok ()) (listed : processorId ∈ event.processorIds) :
    x.after.store.knows event.documentId processorId = true := by
  rw [handles.knows_after processorId, Bool.or_eq_true]
  obtain ⟨first, later, same, leaves, -, -⟩ := handles.cases
  cases known : x.before.store.knows event.documentId processorId with
  | true => exact .inl rfl
  | false =>
      have recorded := leaves.recorded_of_ok processorId done (List.mem_filter.mpr ⟨listed, by simp [known]⟩)
      rw [records, same, List.any_append, recorded]
      exact .inr rfl

/-- What becomes of a delivery, by what has come of its event. -/
theorem settles : ∃ later, x.redeliveries = later.filterMap Mark.redelivery? ∧
    Work.Settles q x.delivery x.outcome later x.receipt := by
  obtain ⟨first, later, same, leaves, settles, -⟩ := handles.cases
  refine ⟨later, ?_, settles⟩
  rw [redeliveries, same, List.filterMap_append, leaves.no_redeliveries, List.nil_append]

end Handles

/-- Whether a try has a delivery that another has put off, and others have spared the rows of a document meanwhile. -/
structure Follows (documentId : Uuid) (x y : Try) : Prop where
  again : ∃ r ∈ x.redeliveries, r.channel = .events ∧ r.delivery = y.delivery
  spares : Spares documentId x.after y.before

end Try

/-- Whether an event is tried again and again. -/
structure Tries (π : Type) (q : QueueSettings) (event : Event) (tries : List Try) : Prop where
  handles : ∀ x ∈ tries, x.Handles π q event
  follows : tries.IsChain (Try.Follows event.documentId)

namespace Tries

variable {q : QueueSettings} {event : Event} {x y : Try} {later : List Try}

theorem first (tries : Tries π q event (x :: later)) : x.Handles π q event :=
  tries.handles x (by simp)

theorem next (tries : Tries π q event (x :: y :: later)) :
    Tries π q event (y :: later) ∧ ∀ id, y.before.store.knows event.documentId id =
      (x.before.store.knows event.documentId id || x.records event.documentId id) := by
  obtain ⟨follows, rest⟩ := List.isChain_cons_cons.mp tries.follows
  refine ⟨⟨fun z member => tries.handles z (List.mem_cons_of_mem x member), rest⟩, fun id => ?_⟩
  rw [follows.spares.knows, tries.first.knows_after]

/-- A processor that is known is never requested again. -/
theorem requests_of_known (tries : Tries π q event (x :: later))
    (known : x.before.store.knows event.documentId processorId = true) :
    ∀ y ∈ x :: later, y.requests event.documentId processorId = 0 := by
  induction later generalizing x with
  | nil => simpa using tries.first.requests_of_known processorId known
  | cons z later ih =>
      obtain ⟨rest, before⟩ := tries.next
      intro y member
      rcases List.mem_cons.mp member with rfl | among
      · exact tries.first.requests_of_known processorId known
      · exact ih rest (by rw [before, known, Bool.true_or]) y among

/-- A processor whose row was saved is not requested by later tries. -/
theorem pairwise {tries : List Try} (all : Tries π q event tries) (processorId : String) :
    tries.Pairwise fun x y => x.records event.documentId processorId = true →
      y.requests event.documentId processorId = 0 := by
  induction tries with
  | nil => exact .nil
  | cons x later ih =>
      cases later with
      | nil => exact List.pairwise_singleton _ x
      | cons y later =>
          obtain ⟨rest, before⟩ := all.next
          refine .cons (fun z member recorded => ?_) (ih rest)
          exact rest.requests_of_known (by rw [before, recorded, Bool.or_true]) z member

/-- A processor that becomes known is requested. -/
theorem requested (tries : Tries π q event (x :: later))
    (unknown : x.before.store.knows event.documentId processorId = false) (among : y ∈ x :: later)
    (known : y.after.store.knows event.documentId processorId = true) :
    ∃ z ∈ x :: later, 0 < z.requests event.documentId processorId := by
  induction later generalizing x with
  | nil =>
      obtain rfl := List.mem_singleton.mp among
      rw [tries.first.knows_after, unknown, Bool.false_or] at known
      exact ⟨y, among, tries.first.requests_pos processorId known⟩
  | cons z later ih =>
      cases recorded : x.records event.documentId processorId with
      | true => exact ⟨x, by simp, tries.first.requests_pos processorId recorded⟩
      | false =>
          obtain ⟨rest, before⟩ := tries.next
          rcases List.mem_cons.mp among with rfl | member
          · rw [tries.first.knows_after, unknown, recorded] at known
            cases known
          · obtain ⟨one, member, requested⟩ := ih rest (by rw [before, unknown, recorded]; rfl) member
            exact ⟨one, List.mem_cons_of_mem x member, requested⟩

/-- A processor is requested as often as it is listed, and once more for each of its rows that was refused. -/
theorem sum_requests_le {tries : List Try} (all : Tries π q event tries) (processorId : String) :
    (tries.map (Try.requests event.documentId processorId)).sum ≤
      event.processorIds.count processorId + tries.countP (Try.loses event.documentId processorId) := by
  induction tries with
  | nil => exact Nat.zero_le _
  | cons x later ih =>
      rw [List.map_cons, List.sum_cons, List.countP_cons]
      cases later with
      | nil =>
          have few := all.first.requests_le_count processorId
          simp only [List.map_nil, List.sum_nil]
          omega
      | cons y later =>
          obtain ⟨rest, before⟩ := all.next
          cases recorded : x.records event.documentId processorId with
          | true =>
              -- No later try requests it.
              have none : ((y :: later).map (Try.requests event.documentId processorId)).sum = 0 := by
                have known : y.before.store.knows event.documentId processorId = true := by
                  rw [before, recorded, Bool.or_true]
                rw [List.sum_eq_zero_iff, List.forall_mem_map]
                exact rest.requests_of_known known
              have few := all.first.requests_le_count processorId
              omega
          | false =>
              have few := all.first.requests_le_loses processorId recorded
              have others := ih rest
              rw [Bool.toNat, Bool.cond_eq_ite] at few
              omega

/-- A try whose delivery was not put off is the last one. -/
theorem ends {tries earlier later : List Try} (all : Tries π q event tries) (same : tries = earlier ++ x :: later)
    (none : x.redeliveries = []) : later = [] := by
  cases later with
  | nil => rfl
  | cons y later =>
      subst same
      obtain ⟨-, follows, -⟩ := List.isChain_append_cons_cons.mp all.follows
      obtain ⟨r, member, -⟩ := follows.again
      rw [none] at member
      cases member

end Tries

/-- Collaborators that do not fail. -/
def sound : Collaborators Endpoint := .reliable [] (fun _ => .ok .ready) dayClock

/-- Collaborators that fail to save the second row. -/
def faulty : Collaborators Endpoint :=
  { sound with saveFault := fun n => if n = 1 then some (.database .lock) else none }

theorem initiate_faulty (log : Log) :
    ∃ t, initiate faulty ⟨1⟩ ["pages", "dates"] false { store := .empty, log } = (.error (.database .lock), t) ∧
      t.store = .memory [.pending ⟨1⟩ "pages" (dayClock 0)] := by
  let start : Service := { store := .empty, log }
  have refused (k : Nat) : refusal faulty start k = if 0 + k = 1 then some (.database .lock) else none :=
    refusal_memory rfl k
  have received : ∀ k, start.Publishes k := publishes_of_endless rfl
  have goes : start.Goes faulty 1 := by
    intro k less
    obtain rfl : k = 0 := by omega
    exact ⟨received 0, refused 0⟩
  obtain ⟨outcome, messages, rows, t, initiated, extent, leads⟩ := initiate_extent faulty start ⟨1⟩
    ["pages", "dates"] false (fun _ => ⟨_, rfl⟩) (fun _ => ⟨.ready, rfl, by decide⟩)
  have left : start.leftOf ⟨1⟩ ["pages", "dates"] false = ["pages", "dates"] := rfl
  rw [left] at extent leads
  obtain ⟨rfl, rfl, rfl⟩ := extent.unsaved_of_refusal Nat.one_lt_two goes (received 1) (refused 1)
  exact ⟨t, initiated, (Except.ok.inj leads.store).symm⟩

theorem initiate_sound {rows : List Row} {store : Store} (held : store = .memory rows) (log : Log)
    (documentId : Uuid) (processorIds : List String) :
    (initiate sound documentId processorIds false { store, log }).1 = .ok () := by
  obtain ⟨outcome, t, ends, ok, -⟩ := initiate_memory (c := sound) (s := { store, log }) (fun _ => rfl) rfl held rfl
    (rfl : sound.scan documentId = .ok .ready) processorIds
  exact (congrArg Prod.fst ends).trans (ok (by decide))

def pagesAndDates : Event := ⟨⟨2⟩, "ADDED", ⟨1⟩, [⟨"pages"⟩, ⟨"dates"⟩]⟩

/-- An event whose second row is refused at first is handled at the second try. -/
theorem tries_pagesAndDates {q : QueueSettings} {text : String} (read : Event.read text = .ok pagesAndDates)
    (few : 1 < q.maxDeliveries) :
    ∃ x y : Try, Tries Endpoint q pagesAndDates [x, y] ∧ x.before.store = .empty ∧
      x.after.store = .memory [.pending ⟨1⟩ "pages" (dayClock 0)] ∧ x.outcome = .error (.database .lock) ∧
      y.outcome = .ok () := by
  obtain ⟨t, refused, rows⟩ := initiate_faulty [pagesAndDates.received]
  obtain ⟨x, failed, delivery, before, -, u, initiated, kept⟩ :=
    Try.handles_of_handle (q := q) faulty (d := .first text) read { store := .empty }
  obtain ⟨outcome, rfl⟩ := Prod.mk.inj (initiated.symm.trans refused)
  obtain ⟨y, handled, second, later, -, v, ended, -⟩ :=
    Try.handles_of_handle (q := q) sound (d := ⟨2, text⟩) read { store := u.store }
  have done : y.outcome = .ok () := (congrArg Prod.fst ended).symm.trans (initiate_sound rows _ _ _)
  obtain ⟨due, again⟩ : ∃ due, x.redeliveries = [⟨due, .events, x.delivery.again⟩] := by
    obtain ⟨put, redeliveries, settles⟩ := failed.settles
    generalize x.receipt = receipt at settles
    rw [outcome] at settles
    cases settles with
    | final lasting => cases lasting
    | again transient few due => exact ⟨due, redeliveries⟩
    | spent transient many =>
        rw [delivery] at many
        exact absurd few (Nat.not_lt.mpr many)
  have follows : Try.Follows pagesAndDates.documentId x y := by
    refine ⟨⟨_, by rw [again]; exact List.mem_singleton_self _, rfl, by rw [delivery, second]; rfl⟩, ?_⟩
    rw [Spares, later, kept]
  refine ⟨x, y, ⟨?_, .cons_cons follows (.singleton y)⟩, by rw [before], kept.trans rows, outcome, done⟩
  rintro z member
  rcases List.mem_pair.mp member with rfl | rfl
  · exact failed
  · exact handled

end Dossier.Service
