import Dossier.Proofs.Message.Request
import Dossier.Proofs.Service.Initiation
import Dossier.Proofs.Service.Results

/-! # What an initiation requests

Where the store takes every row and the topic of requests stays open, the processors that are requested are
just those without a row, each as often as it is listed. A store in memory always tells which those are. Main
statements: `initiate_memory` and `initiate_processed`.
-/

namespace Dossier

variable {π : Type}

/-- Whether a row is one of a document and a processor. -/
def Row.isOf (documentId : Uuid) (processorId : String) (row : Row) : Bool :=
  row.documentId == documentId && row.processorId == processorId

/-- The request for a processor on a document, on its first way. -/
def Delivery.asking (documentId : Uuid) (processorId : String) : Delivery :=
  .first (Request.text ⟨⟨processorId⟩, documentId⟩)

theorem Delivery.asking_inj {documentId documentId' : Uuid} {processorId processorId' : String} :
    asking documentId processorId = asking documentId' processorId' ↔
      documentId = documentId' ∧ processorId = processorId' := by
  constructor
  · intro same
    have texts : Request.text ⟨⟨processorId⟩, documentId⟩ = Request.text ⟨⟨processorId'⟩, documentId'⟩ :=
      congrArg Delivery.payload same
    have read := Request.read_text ⟨⟨processorId⟩, documentId⟩
    rw [texts, Request.read_text] at read
    cases read
    exact ⟨rfl, rfl⟩
  · rintro ⟨rfl, rfl⟩
    rfl

/-- What is added when processors are requested one after the other. -/
def Effect.requesting (c : Collaborators π) (documentId : Uuid) : Nat → List String → Effect
  | _, [] => .nothing
  | reading, processorId :: rest =>
      { rows := [.pending documentId processorId (c.clock reading)],
        requests := [.asking documentId processorId], readings := 1 } ++
        requesting c documentId (reading + 1) rest

theorem Effect.requests_requesting (c : Collaborators π) (documentId : Uuid) (reading : Nat)
    (processorIds : List String) :
    (requesting c documentId reading processorIds).requests =
      processorIds.map (.asking documentId) := by
  induction processorIds generalizing reading with
  | nil => rfl
  | cons processorId rest ih => exact congrArg (Delivery.asking documentId processorId :: ·) (ih _)

namespace Service

variable {c : Collaborators π} {s t : Service} {rows : List Row} {documentId : Uuid}
  {processorIds : List String}

/-- Whether a service takes rows and requests. -/
structure Willing (s : Service) : Prop where
  holds : ∃ rows, s.store.Holds rows
  endless : (s.topics.get .requests).lifetime = none

theorem Willing.leads {e : Effect} (willing : s.Willing) (leads : e.Leads s t) : t.Willing where
  holds := by
    obtain ⟨rows, holds⟩ := willing.holds
    exact ⟨_, holds_saveAll holds leads.store⟩
  endless := by
    have sent := leads.topics .requests
    rw [Topic.sendAll_of_endless willing.endless] at sent
    rw [← Option.some.inj sent]
    exact willing.endless

theorem Willing.takes (willing : s.Willing) (saves : ∀ n, c.saveFault n = none) (row : Row) :
    s.Takes c row := by
  obtain ⟨rows, holds⟩ := willing.holds
  obtain ⟨after, saved, -⟩ := holds.save row
  exact ⟨saves _, after, saved⟩

theorem request_willing (saves : ∀ n, c.saveFault n = none) (willing : s.Willing)
    (documentId : Uuid) (processorId : String) :
    ∃ t, request c documentId processorId s = (.ok (), t) ∧
      (Effect.requesting c documentId s.readings [processorId]).Leads s t := by
  have opened : (s.topics.get .requests).isOpen = true := by simp [Topic.isOpen, willing.endless]
  rcases publish_cases .requests (Request.text ⟨⟨processorId⟩, documentId⟩) s with
    ⟨-, t, sent, sending⟩ | ⟨closed, -⟩
  · have still : t.Willing := willing.leads sending
    have read := leads_readings (s := t)
    have same : t.readings = s.readings := sending.readings
    rcases save_cases c (.pending documentId processorId (c.clock t.readings))
        { t with readings := t.readings + 1 } with ⟨-, u, saved, saving, -⟩ | ⟨refused, -⟩
    · refine ⟨_, (bind_ok (explain_ok sent)).trans ((readClock_bind ..).trans (bind_ok saved)), ?_⟩
      rw [← same]
      exact ((sending.trans read).trans saving).trans (leads_log _)
    · exact absurd ((still.leads read).takes saves _) refused
  · rw [opened] at closed
    cases closed

/-- Where nothing fails, each processor is requested as often as it is listed. -/
theorem enqueue_willing (saves : ∀ n, c.saveFault n = none) (willing : s.Willing)
    (documentId : Uuid) (processorIds : List String) :
    ∃ t, enqueue c documentId processorIds s = (.ok (), t) ∧
      (Effect.requesting c documentId s.readings processorIds).Leads s t := by
  induction processorIds generalizing s with
  | nil => exact ⟨s, rfl, .refl s⟩
  | cons processorId rest ih =>
      obtain ⟨t, requested, leads⟩ := request_willing saves willing documentId processorId
      obtain ⟨u, enqueued, further⟩ := ih (willing.leads leads)
      rw [leads.readings] at further
      exact ⟨u, (bind_ok requested).trans enqueued, leads.trans further⟩

/-- Whether the requests of an effect are those for the first few of some processors, and for all of them if
nothing failed. -/
def Asks (documentId : Uuid) (processorIds : List String) (outcome : Except ServiceFailure Unit)
    (e : Effect) : Prop :=
  ∃ count, e.requests = (processorIds.take count).map (.asking documentId) ∧
    (outcome = .ok () → processorIds.length ≤ count)

theorem request_asks (c : Collaborators π) (documentId : Uuid) (processorId : String) (s : Service) :
    ∃ outcome effect t, request c documentId processorId s = (outcome, t) ∧ effect.Leads s t ∧
      Asks documentId [processorId] outcome effect := by
  rcases publish_cases .requests (Request.text ⟨⟨processorId⟩, documentId⟩) s with
    ⟨-, t, sent, sending⟩ | ⟨-, failed⟩
  · have read := leads_readings (s := t)
    have begun : request c documentId processorId s = _ :=
      (bind_ok (explain_ok sent)).trans (readClock_bind ..)
    rcases save_cases c (.pending documentId processorId (c.clock t.readings))
      { t with readings := t.readings + 1 } with ⟨-, u, saved, saving, -⟩ | ⟨-, failure, u, failed, quiet⟩
    · exact ⟨_, _, _, begun.trans (bind_ok saved),
        ((sending.trans read).trans saving).trans (leads_log _), 1, rfl, fun _ => Nat.le_refl 1⟩
    · exact ⟨_, _, _, begun.trans (bind_error failed), (sending.trans read).trans quiet, 1, rfl,
        fun _ => Nat.le_refl 1⟩
  · exact ⟨_, .nothing, s, bind_error (explain_error failed), .refl s, 0, rfl, fun done => nomatch done⟩

/-- Processors are asked for in the order in which they are listed, up to the first failure. -/
theorem enqueue_asks (c : Collaborators π) (documentId : Uuid) (processorIds : List String)
    (s : Service) :
    ∃ outcome effect t, enqueue c documentId processorIds s = (outcome, t) ∧ effect.Leads s t ∧
      Asks documentId processorIds outcome effect := by
  induction processorIds generalizing s with
  | nil => exact ⟨.ok (), .nothing, s, rfl, .refl s, 0, rfl, fun _ => Nat.le_refl 0⟩
  | cons processorId rest ih =>
      obtain ⟨outcome, first, t, asked, leads, count, one, all⟩ :=
        request_asks c documentId processorId s
      cases outcome with
      | error failure =>
          refine ⟨_, first, t, bind_error asked, leads, min count 1, ?_, fun done => nomatch done⟩
          rw [one]
          cases count with
          | zero => rfl
          | succ count => rw [List.take_of_length_le (by simp), Nat.min_eq_right (by omega)]; rfl
      | ok done =>
          obtain ⟨outcome, others, u, enqueued, further, count', same, every⟩ := ih t
          refine ⟨outcome, first ++ others, u, (bind_ok asked).trans enqueued, leads.trans further,
            count' + 1, ?_, fun done => Nat.succ_le_succ (every done)⟩
          have requests : (first ++ others).requests = first.requests ++ others.requests := rfl
          rw [requests, one, same, List.take_of_length_le (all rfl)]
          rfl

/-- The processors that have no row for a document. -/
def missing (rows : List Row) (documentId : Uuid) (processorIds : List String) : List String :=
  processorIds.filter fun id => !rows.any (Row.isOf documentId id)

theorem tellProcessed_cases (documentId : Uuid) (existing : List Row) (s : Service) :
    ∃ t, (tellProcessed documentId existing : Attempt ServiceFailure Unit) s = (.ok (), t) ∧
      Effect.nothing.Leads s t := by
  unfold tellProcessed Procedure.tellProcessed
  split
  · exact ⟨s, rfl, .refl s⟩
  · exact ⟨_, rfl, leads_log _⟩

theorem filter_memory (held : s.store = .memory rows) (answers : c.findFault s.finds = none)
    (documentId : Uuid) (processorIds : List String) :
    ∃ t, filter c documentId processorIds false s = (.ok (missing rows documentId processorIds), t) ∧
      Effect.nothing.Leads s t := by
  let existing := rows.filter fun row =>
    row.documentId == documentId && processorIds.contains row.processorId
  have asked : ask c (·.findFrom documentId processorIds) s =
      (.ok existing, { s with finds := s.finds + 1 }) := by
    rw [ask_of_answers answers, held]
    rfl
  obtain ⟨t, told, leads⟩ := tellProcessed_cases documentId existing { s with finds := s.finds + 1 }
  have left : (processorIds.filter fun id => !existing.any (·.processorId == id)) =
      missing rows documentId processorIds := by
    apply List.filter_congr
    intro id listed
    have same (row : Row) : (row.documentId == documentId && processorIds.contains row.processorId &&
        row.processorId == id) = Row.isOf documentId id row := by
      by_cases named : row.processorId = id
      · simp [Row.isOf, named, listed]
      · simp [Row.isOf, beq_eq_false_iff_ne.mpr named]
    simp only [existing, List.any_filter, same]
  rw [← left]
  exact ⟨t, (bind_ok asked).trans (bind_ok told), { leads with }⟩

/-- Where no processor is missing nothing is done, whatever the scan would have said. -/
theorem initiate_processed (held : s.store = .memory rows) (answers : c.findFault s.finds = none)
    (processed : missing rows documentId processorIds = []) :
    ∃ t, Effect.nothing.Leads s t ∧
      ∀ scan, initiate { c with scan } documentId processorIds false s = (.ok (), t) := by
  obtain ⟨t, filtered, leads⟩ := filter_memory held answers documentId processorIds
  rw [processed] at filtered
  have told := leads_log (s := t) [⟨.debug, "Nothing to enqueue", [("doc_id", documentId.text)]⟩]
  refine ⟨_, leads.trans told, fun scan => ?_⟩
  have same : filter { c with scan } documentId processorIds false s = (.ok [], t) := filtered
  exact (bind_ok same).trans rfl

/-- Where nothing fails, the missing processors are requested, unless the document is in quarantine. -/
theorem initiate_memory (saves : ∀ n, c.saveFault n = none) (answers : c.findFault s.finds = none)
    (held : s.store = .memory rows) (endless : (s.topics.get .requests).lifetime = none)
    {status : ScanStatus} (scanned : c.scan documentId = .ok status) (processorIds : List String) :
    ∃ outcome t, initiate c documentId processorIds false s = (outcome, t) ∧
      (status ≠ .failedScan → outcome = .ok ()) ∧
      (Effect.requesting c documentId s.readings
        (if status = .failedScan then [] else missing rows documentId processorIds)).Leads s t := by
  obtain ⟨t, filtered, leads⟩ := filter_memory held answers documentId processorIds
  have willing : t.Willing := Willing.leads ⟨⟨rows, held ▸ Store.Holds.memory rows⟩, endless⟩ leads
  have same : t.readings = s.readings := leads.readings
  by_cases processed : missing rows documentId processorIds = []
  · obtain ⟨u, leads, done⟩ := initiate_processed held answers processed
    refine ⟨_, u, done c.scan, fun _ => rfl, ?_⟩
    rw [processed, ite_self]
    exact leads
  · rw [initiate_eq, bind_ok filtered, clear_of_ne_nil c documentId processed, scanned]
    cases status with
    | failedScan => exact ⟨_, _, rfl, fun passed => absurd rfl passed, leads.trans (leads_log _)⟩
    | ready | awaitingScan =>
        have told := leads_log (s := t)
          [⟨.debug, "Enqueuing processing request", [("doc_id", documentId.text)]⟩]
        obtain ⟨u, enqueued, further⟩ := enqueue_willing saves (willing.leads told) documentId
          (missing rows documentId processorIds)
        have whole := leads.trans (told.trans further)
        rw [Effect.nothing_append, Effect.nothing_append] at whole
        rw [← same]
        exact ⟨.ok (), u, (tell_bind ..).trans enqueued, fun _ => rfl, whole⟩

end Service

end Dossier
