import Dossier.Proofs.Ingress.Effect
import Dossier.Proofs.Service.Gate
import Dossier.Proofs.Store.Known

/-! # How far an initiation gets

Processors are requested one after the other, each first by a message and then by a row, up to the first message that
is not received or the first row that is not taken. So what an initiation adds is decided by where it stops, and there
is never a row whose message was not sent. Main statement: `initiated_up_to`.
-/

namespace Dossier

variable {π : Type}

/-- What is added when the first processors are sent messages, and the first of these are recorded. -/
def Effect.upTo (c : Collaborators π) (documentId : Uuid) (reading : Nat) (processorIds : List String)
    (messages rows : Nat) : Effect where
  rows := ((processorIds.take rows).zipIdx reading).map fun (id, n) => .pending documentId id (c.clock n)
  requests := (processorIds.take messages).map (.asking documentId)
  readings := messages

theorem Effect.upTo_cons (c : Collaborators π) (documentId : Uuid) (reading : Nat) (processorId : String)
    (rest : List String) (messages rows : Nat) :
    upTo c documentId reading [processorId] 1 1 ++ upTo c documentId (reading + 1) rest messages rows =
      upTo c documentId reading (processorId :: rest) (messages + 1) (rows + 1) :=
  congrArg (Effect.mk _ _ _ _) (Nat.add_comm 1 messages)

theorem Delivery.read_asking (documentId : Uuid) (processorId : String) :
    Request.read (asking documentId processorId).payload = .ok ⟨⟨processorId⟩, documentId⟩ := by
  simp only [asking, first, Request.read_text]

theorem Effect.read_upTo (c : Collaborators π) (documentId : Uuid) (reading : Nat) (processorIds : List String)
    (messages rows : Nat) :
    ((upTo c documentId reading processorIds messages rows).requests.map fun d => Request.read d.payload) =
      (processorIds.take messages).map fun id => .ok ⟨⟨id⟩, documentId⟩ := by
  rw [upTo, List.map_map]
  exact List.map_congr_left fun id _ => Delivery.read_asking documentId id

/-- Where there are no more rows than messages, each row has its message. -/
theorem Effect.sent_of_recorded {c : Collaborators π} {documentId : Uuid} {reading : Nat}
    {processorIds : List String} {messages rows : Nat} (fewer : rows ≤ messages) {row : Row}
    (recorded : row ∈ (upTo c documentId reading processorIds messages rows).rows) :
    .asking row.documentId row.processorId ∈ (upTo c documentId reading processorIds messages rows).requests := by
  obtain ⟨⟨id, n⟩, listed, rfl⟩ := List.mem_map.mp recorded
  have early : id ∈ processorIds.take rows := List.fst_mem_of_mem_zipIdx listed
  exact List.mem_map_of_mem (List.take_subset_take_left processorIds fewer early)

namespace Service

variable {c : Collaborators π} {documentId : Uuid} {s t : Service}

/-- Whether a request that is published behind `k` others is received. -/
def Publishes (s : Service) (k : Nat) : Prop :=
  ∀ most ∈ s.topics.requests.lifetime, k < most

/-- Why a row that is saved behind `k` others is not taken, if it is not. -/
def refusal (c : Collaborators π) (s : Service) (k : Nat) : Option ServiceFailure :=
  match c.saveFault (s.saves + k) with
  | some failure => some failure
  | none => match s.store with
    | .memory _ => none
    | .table t => if t.records.isSome then none else some (.database (.query (.noTable Table.name)))

theorem refusal_memory {rows : List Row} (held : s.store = .memory rows) (k : Nat) :
    refusal c s k = c.saveFault (s.saves + k) := by
  rw [refusal, held]
  cases c.saveFault (s.saves + k) with
  | some | none => rfl

theorem publishes_of_endless (endless : s.topics.requests.lifetime = none) (k : Nat) : s.Publishes k := by
  intro most known
  rw [endless] at known
  cases known

theorem isOpen_iff (s : Service) : s.topics.requests.isOpen = true ↔ s.Publishes 0 := by
  simp only [Topic.isOpen, Publishes, decide_eq_true_eq]
  cases s.topics.requests.lifetime with
  | none => simp
  | some most => simp [Nat.pos_iff_ne_zero]

theorem publish_open (opened : s.topics.requests.isOpen = true) (payload : String) :
    publish .requests payload s = (.ok (), { s with
      topics := s.topics.set .requests (s.topics.requests.adding (.first payload)) }) := by
  have received : (s.topics.get .requests).send? (.first payload) =
      some (s.topics.requests.adding (.first payload)) := if_pos opened
  simp only [publish, send, received]

/-- Saving a row counts whether the row is taken or not. -/
theorem save_eq (c : Collaborators π) (row : Row) (s : Service) :
    save c row s = match refusal c s 0 with
      | some failure => (.error failure, { s with saves := s.saves + 1 })
      | none => (.ok (), { s with
          saves := s.saves + 1, store := s.store.adding row, saved := s.saved ++ [row] }) := by
  simp only [save, refusal, Nat.add_zero]
  cases c.saveFault s.saves with
  | some failure => rfl
  | none =>
      cases s.store with
      | memory rows => rfl
      | table t =>
          obtain ⟨records⟩ := t
          cases records with
          | none | some => rfl

theorem refusal_adding (row : Row) (k : Nat) :
    refusal c { s with saves := s.saves + 1, store := s.store.adding row } k = refusal c s (k + 1) := by
  have count : s.saves + 1 + k = s.saves + (k + 1) := by omega
  simp only [refusal, count]
  cases s.store with
  | memory rows => rfl
  | table t => simp [Store.adding]

theorem publishes_adding {d : Delivery} (same : t.topics.requests = s.topics.requests.adding d) (k : Nat) :
    t.Publishes k ↔ s.Publishes (k + 1) := by
  simp only [Publishes, same, Topic.adding]
  cases s.topics.requests.lifetime with
  | none => simp
  | some most =>
      simp only [Option.map_some, Option.mem_some_iff, forall_eq']
      omega

/-- What comes of one request: nothing, a message without a row, or a message and a row. -/
theorem request_extent (c : Collaborators π) (documentId : Uuid) (processorId : String) (s : Service) :
    (¬s.Publishes 0 ∧ request c documentId processorId s = (.error (.closed Channel.requests.name), s)) ∨
    (s.Publishes 0 ∧ ∃ failure t, refusal c s 0 = some failure ∧
      request c documentId processorId s = (.error failure, t) ∧
      (Effect.upTo c documentId s.readings [processorId] 1 0).Leads s t) ∨
    (s.Publishes 0 ∧ refusal c s 0 = none ∧ ∃ t, request c documentId processorId s = (.ok (), t) ∧
      (Effect.upTo c documentId s.readings [processorId] 1 1).Leads s t ∧
      (∀ k, t.Publishes k ↔ s.Publishes (k + 1)) ∧ ∀ k, refusal c t k = refusal c s (k + 1)) := by
  let payload := Request.text ⟨⟨processorId⟩, documentId⟩
  let published : Service := { s with
    topics := s.topics.set .requests (s.topics.requests.adding (.asking documentId processorId)) }
  rcases publish_cases .requests payload s with ⟨opened, u, sent, sending⟩ | ⟨closed, failed⟩
  · have received := (isOpen_iff s).mp opened
    obtain rfl : u = published := congrArg Prod.snd (sent.symm.trans (publish_open opened payload))
    have begun : request c documentId processorId s = _ :=
      (bind_ok (explain_ok sent)).trans (readClock_bind ..)
    -- The clock is read before the row is saved, and so also where it is not taken.
    have read := sending.trans (leads_readings (s := published))
    let ready : Service := { published with readings := s.readings + 1 }
    have saved := save_eq c (.pending documentId processorId (c.clock s.readings)) ready
    rw [show refusal c ready 0 = refusal c s 0 from rfl] at saved
    cases refused : refusal c s 0 with
    | some failure =>
        rw [refused] at saved
        refine .inr (.inl ⟨received, failure, _, rfl, begun.trans (bind_error saved), ?_⟩)
        exact { read with }
    | none =>
        rw [refused] at saved
        have whole := begun.trans (bind_ok saved)
        refine .inr (.inr ⟨received, rfl, _, whole, ?_, ?_, ?_⟩)
        · rcases save_cases c (.pending documentId processorId (c.clock s.readings)) ready with
            ⟨-, v, same, saving, -⟩ | ⟨-, failure, v, same, -⟩
          · cases same.symm.trans saved
            exact (read.trans saving).trans (leads_log _)
          · cases same.symm.trans saved
        · exact publishes_adding rfl
        · exact refusal_adding (s := ready) _
  · refine .inl ⟨fun received => ?_, bind_error (explain_error failed)⟩
    have opened := (isOpen_iff s).mpr received
    rw [show s.topics.requests.isOpen = false from closed] at opened
    cases opened

/-- Whether the requests for the first processors are received, and their rows are taken. -/
def Goes (c : Collaborators π) (s : Service) (count : Nat) : Prop :=
  ∀ k < count, s.Publishes k ∧ refusal c s k = none

theorem goes_zero (c : Collaborators π) (s : Service) : s.Goes c 0 := by
  intro k less
  exact absurd less (Nat.not_lt_zero k)

theorem goes_succ (received : s.Publishes 0) (taken : refusal c s 0 = none)
    (publishes : ∀ k, t.Publishes k ↔ s.Publishes (k + 1)) (refuses : ∀ k, refusal c t k = refusal c s (k + 1))
    {count : Nat} (goes : t.Goes c count) : s.Goes c (count + 1) := by
  intro k less
  cases k with
  | zero => exact ⟨received, taken⟩
  | succ k =>
      have next := goes k (Nat.lt_of_succ_lt_succ less)
      rwa [publishes, refuses] at next

/-- How an enqueuing ends, how many messages it sends and how many rows it saves, by where it stops. -/
inductive Extent (c : Collaborators π) (s : Service) (processorIds : List String) :
    Except ServiceFailure Unit → Nat → Nat → Prop where
  | all (goes : s.Goes c processorIds.length) :
      Extent c s processorIds (.ok ()) processorIds.length processorIds.length
  | unpublished {k : Nat} (less : k < processorIds.length) (goes : s.Goes c k) (closed : ¬s.Publishes k) :
      Extent c s processorIds (.error (.closed Channel.requests.name)) k k
  | unsaved {k : Nat} {failure : ServiceFailure} (less : k < processorIds.length) (goes : s.Goes c k)
      (received : s.Publishes k) (refused : refusal c s k = some failure) :
      Extent c s processorIds (.error failure) (k + 1) k

theorem Extent.rows_le {processorIds : List String} {outcome : Except ServiceFailure Unit} {messages rows : Nat}
    (extent : Extent c s processorIds outcome messages rows) : rows ≤ messages := by
  cases extent with
  | all | unpublished => exact Nat.le_refl _
  | unsaved => exact Nat.le_succ _

/-- An enqueuing that comes to a row that is not taken stops there. -/
theorem Extent.unsaved_of_refusal {processorIds : List String} {outcome : Except ServiceFailure Unit}
    {messages rows k : Nat} {failure : ServiceFailure} (extent : Extent c s processorIds outcome messages rows)
    (less : k < processorIds.length) (goes : s.Goes c k) (received : s.Publishes k)
    (refused : refusal c s k = some failure) : outcome = .error failure ∧ messages = k + 1 ∧ rows = k := by
  have not_beyond {count : Nat} (far : s.Goes c count) : count ≤ k := by
    refine Nat.le_of_not_lt fun beyond => ?_
    rw [(far k beyond).2] at refused
    cases refused
  cases extent with
  | all far => exact absurd less (Nat.not_lt.mpr (not_beyond far))
  | unpublished _ far closed =>
      rcases Nat.lt_or_eq_of_le (not_beyond far) with before | rfl
      · exact absurd (goes _ before).1 closed
      · exact absurd received closed
  | unsaved _ far _ stopped =>
      rcases Nat.lt_or_eq_of_le (not_beyond far) with before | rfl
      · rw [(goes _ before).2] at stopped
        cases stopped
      · rw [refused] at stopped
        cases stopped
        exact ⟨rfl, rfl, rfl⟩

theorem enqueue_extent (c : Collaborators π) (documentId : Uuid) (processorIds : List String) (s : Service) :
    ∃ outcome messages rows t, enqueue c documentId processorIds s = (outcome, t) ∧
      Extent c s processorIds outcome messages rows ∧
      (Effect.upTo c documentId s.readings processorIds messages rows).Leads s t := by
  induction processorIds generalizing s with
  | nil => exact ⟨_, 0, 0, s, rfl, .all (goes_zero c s), .refl s⟩
  | cons processorId rest ih =>
      rcases request_extent c documentId processorId s with
        ⟨closed, failed⟩ | ⟨received, failure, t, refused, failed, leads⟩ |
        ⟨received, taken, t, requested, leads, publishes, refuses⟩
      · exact ⟨_, 0, 0, s, bind_error failed, .unpublished (Nat.zero_lt_succ _) (goes_zero c s) closed, .refl s⟩
      · exact ⟨_, 1, 0, t, bind_error failed,
          .unsaved (Nat.zero_lt_succ _) (goes_zero c s) received refused, leads⟩
      · obtain ⟨outcome, messages, rows, u, enqueued, extent, further⟩ := ih t
        have readings : t.readings = s.readings + 1 := leads.readings
        rw [readings] at further
        have whole := leads.trans further
        rw [Effect.upTo_cons] at whole
        -- What comes at place `k` after the first request comes at place `k + 1` before it.
        have next {count : Nat} (goes : t.Goes c count) : s.Goes c (count + 1) :=
          goes_succ received taken publishes refuses goes
        refine ⟨outcome, messages + 1, rows + 1, u, (bind_ok requested).trans enqueued, ?_, whole⟩
        cases extent with
        | all goes => exact .all (next goes)
        | unpublished less goes closed =>
            exact .unpublished (Nat.succ_lt_succ less) (next goes) (by rwa [← publishes])
        | unsaved less goes received refused =>
            exact .unsaved (Nat.succ_lt_succ less) (next goes) ((publishes _).mp received) (by rwa [← refuses])

variable {processorIds : List String} {again : Bool}

/-- The processors that an initiation is left with: those of whom the store has no row for the document, or all if
they are to be run again. -/
def leftOf (s : Service) (documentId : Uuid) (processorIds : List String) (again : Bool) : List String :=
  if again then processorIds else processorIds.filter fun id => !s.store.knows documentId id

theorem tellProcessed_eq (documentId : Uuid) (existing : List Row) (s : Service) :
    ∃ told, (tellProcessed documentId existing : Attempt ServiceFailure Unit) s =
      (.ok (), { s with log := s.log ++ told }) := by
  unfold tellProcessed Procedure.tellProcessed
  split
  · refine ⟨[], ?_⟩
    rw [List.append_nil]
    rfl
  · exact ⟨_, rfl⟩

/-- What is answered is what the store has. -/
theorem found_of_ask {α : Type} {question : Store → Except DatabaseFailure α} {a : α}
    (asked : ask c question s = (.ok a, t)) : question s.store = .ok a := by
  simp only [ask] at asked
  cases fault : c.findFault s.finds with
  | some failure =>
      rw [fault] at asked
      cases asked
  | none =>
      rw [fault] at asked
      exact mapError_eq_ok.mp (congrArg Prod.fst asked)

theorem filter_left (reads : again = false → ∃ existing,
      (ask c (·.findFrom documentId processorIds) s).1 = .ok existing) :
    ∃ finds told, filter c documentId processorIds again s =
      (.ok (s.leftOf documentId processorIds again), { s with finds, log := s.log ++ told }) := by
  cases again with
  | true =>
      refine ⟨s.finds, [], ?_⟩
      rw [List.append_nil]
      rfl
  | false =>
      obtain ⟨existing, read⟩ := reads rfl
      obtain ⟨outcome, asked⟩ := ask_cases c (·.findFrom documentId processorIds) s
      rw [asked] at read
      cases read
      have found := found_of_ask asked
      obtain ⟨told, telling⟩ := tellProcessed_eq documentId existing { s with finds := s.finds + 1 }
      refine ⟨s.finds + 1, told, (bind_ok asked).trans ((bind_ok telling).trans ?_)⟩
      rw [Store.filter_findFrom found]
      rfl

/-- It makes no difference to an enqueuing what was asked or told before. -/
theorem Extent.before {left : List String} {finds : Nat} {log : Log} {outcome : Except ServiceFailure Unit}
    {messages rows : Nat} (extent : Extent c { s with finds, log } left outcome messages rows) :
    Extent c s left outcome messages rows := by
  cases extent with
  | all goes => exact .all goes
  | unpublished less goes closed => exact .unpublished less goes closed
  | unsaved less goes received refused => exact .unsaved less goes received refused

/-- An initiation that knows which processors are left, and that the scan lets pass, requests them as far as it gets. -/
theorem initiate_extent (c : Collaborators π) (s : Service) (documentId : Uuid) (processorIds : List String)
    (again : Bool)
    (reads : again = false → ∃ existing, (ask c (·.findFrom documentId processorIds) s).1 = .ok existing)
    (clears : s.leftOf documentId processorIds again ≠ [] → Clears (c.scan documentId)) :
    ∃ outcome messages rows t, initiate c documentId processorIds again s = (outcome, t) ∧
      Extent c s (s.leftOf documentId processorIds again) outcome messages rows ∧
      (Effect.upTo c documentId s.readings (s.leftOf documentId processorIds again) messages rows).Leads s t := by
  obtain ⟨finds, told, filtered⟩ := filter_left reads
  let chosen : Service := { s with finds, log := s.log ++ told }
  have quiet : Effect.nothing.Leads s chosen := { leads_log told with }
  rw [initiate_eq, bind_ok filtered]
  cases left : s.leftOf documentId processorIds again with
  | nil => exact ⟨_, 0, 0, _, rfl, .all (goes_zero c s), quiet.trans (leads_log _)⟩
  | cons processorId rest =>
      obtain ⟨status, scanned, passed⟩ := clears (by simp [left])
      let notice : Log := [⟨.debug, "Enqueuing processing request", [("doc_id", documentId.text)]⟩]
      let noted : Service := { chosen with log := chosen.log ++ notice }
      have granted : clear c documentId (processorId :: rest) chosen =
          enqueue c documentId (processorId :: rest) noted := by
        rw [clear_of_ne_nil c documentId (List.cons_ne_nil processorId rest), scanned]
        cases status with
        | failedScan => contradiction
        | ready | awaitingScan => rfl
      obtain ⟨outcome, messages, rows, t, enqueued, extent, leads⟩ :=
        enqueue_extent c documentId (processorId :: rest) noted
      have whole := (quiet.trans (leads_log notice)).trans leads
      rw [Effect.nothing_append, Effect.nothing_append] at whole
      exact ⟨outcome, messages, rows, t, granted.trans enqueued, Extent.before (s := s) extent, whole⟩

/-- An initiation publishes requests for the first processors that are left, and saves pending rows for the first
of them, and changes nothing else. Where it stops decides how it ends: at the end; at the first message that is not
received, with as many rows as messages; or at the first row that is not taken, which is the one message without a
row. -/
theorem initiated_up_to (c : Collaborators π) (s : Service) (documentId : Uuid) (processorIds : List String)
    (again : Bool)
    (reads : again = false → ∃ existing, (ask c (·.findFrom documentId processorIds) s).1 = .ok existing)
    (clears : s.leftOf documentId processorIds again ≠ [] → Clears (c.scan documentId)) :
    ∃ outcome messages rows sent added t, initiate c documentId processorIds again s = (outcome, t) ∧
      Extent c s (s.leftOf documentId processorIds again) outcome messages rows ∧
      t.topics.requests.sent = s.topics.requests.sent ++ sent ∧
      (sent.map fun d => Request.read d.payload) =
        (((s.leftOf documentId processorIds again).take messages).map fun id => .ok ⟨⟨id⟩, documentId⟩) ∧
      s.store.saveAll added = .ok t.store ∧
      added = ((((s.leftOf documentId processorIds again).take rows).zipIdx s.readings).map fun (id, reading) =>
        .pending documentId id (c.clock reading)) ∧
      t.store = s.store.addingAll added ∧ t.saved = s.saved ++ added ∧
      (∀ row ∈ added, .asking row.documentId row.processorId ∈ sent) ∧
      t.topics.requests.taken = s.topics.requests.taken ∧ t.topics.completions = s.topics.completions ∧
      t.topics.events = s.topics.events ∧ t.agenda = s.agenda := by
  obtain ⟨outcome, messages, rows, t, initiated, extent, leads⟩ :=
    initiate_extent c s documentId processorIds again reads clears
  have requests := leads.topics .requests
  have completions : t.topics.get .completions = s.topics.get .completions := leads.untouched rfl
  have events : t.topics.get .events = s.topics.get .events := leads.untouched rfl
  exact ⟨outcome, messages, rows, _, _, t, initiated, extent, Topic.sent_of_sendAll requests,
    Effect.read_upTo c documentId s.readings _ messages rows, leads.store, rfl,
    leads.store_addingAll, leads.saved, fun row recorded => Effect.sent_of_recorded extent.rows_le recorded,
    Topic.taken_of_sendAll requests, completions, events, leads.agenda⟩

/-- Where only the second saving fails, the second of the processors without a row is the last one to be sent a
message, and has no row still. -/
theorem second_row_refused :
    let failure : ServiceFailure := .database .lock
    let c : Collaborators Endpoint :=
      { Collaborators.reliable [] (fun _ => .ok .ready) dayClock with
        saveFault := fun n => if n = 1 then some failure else none }
    let start : Service := { store := .memory [.pending ⟨1⟩ "pages" (dayClock 0)] }
    ∃ t, initiate c ⟨1⟩ ["pages", "dates", "names", "dates"] false start = (.error failure, t) ∧
      (t.topics.requests.sent.map fun d => Request.read d.payload) =
        [.ok ⟨⟨"dates"⟩, ⟨1⟩⟩, .ok ⟨⟨"names"⟩, ⟨1⟩⟩] ∧
      start.store.saveAll [.pending ⟨1⟩ "dates" (dayClock 0)] = .ok t.store := by
  intro failure c start
  have left : start.leftOf ⟨1⟩ ["pages", "dates", "names", "dates"] false = ["dates", "names", "dates"] := by decide
  have refused (k : Nat) : refusal c start k = if 0 + k = 1 then some failure else none := refusal_memory rfl k
  obtain ⟨outcome, messages, rows, sent, added, t, initiated, extent, requests, read, store, dated, -⟩ :=
    initiated_up_to c start ⟨1⟩ ["pages", "dates", "names", "dates"] false (fun _ => ⟨_, rfl⟩)
      (fun _ => ⟨.ready, rfl, by decide⟩)
  rw [left] at extent read dated
  have received : ∀ k, start.Publishes k := publishes_of_endless rfl
  have goes : start.Goes c 1 := by
    intro k less
    obtain rfl : k = 0 := by omega
    exact ⟨received 0, refused 0⟩
  have stopped := extent.unsaved_of_refusal (by decide) goes (received 1) (refused 1)
  obtain ⟨rfl, rfl, rfl⟩ := stopped
  rw [dated] at store
  refine ⟨t, initiated, ?_, store⟩
  rw [requests]
  exact read

end Service

end Dossier
