import Dossier.Proofs.Service.Requesting
import Dossier.ScanService

/-! # The gate

An initiation passes a gate before it requests anything: if processors are left, the scan of the document must
have been answered, and not with quarantine. One that does not pass changes nothing. Main statements:
`initiate_passes` and `ScanService.status_ok`.
-/

namespace Dossier

namespace Service

variable {π : Type} {c : Collaborators π} {documentId : Uuid} {left : List String} {s : Service}

/-- Whether an answer for the scan of a document lets the document pass. -/
def Clears (answer : Except ScanFailure ScanStatus) : Prop :=
  ∃ status, answer = .ok status ∧ status ≠ .failedScan

/-- How an initiation can end, by the processors that are left and the answer for the scan. -/
inductive Passes (c : Collaborators π) (documentId : Uuid) :
    Except ServiceFailure (List String) → Except ServiceFailure Unit → Effect → Prop where
  /-- It is not known which processors are left. -/
  | unknown {failure : ServiceFailure} : Passes c documentId (.error failure) (.error failure) .nothing
  | idle : Passes c documentId (.ok []) (.ok ()) .nothing
  | unanswered {left : List String} {failure : ScanFailure} (some : left ≠ [])
      (scanned : c.scan documentId = .error failure) :
      Passes c documentId (.ok left) (.error (.scan failure)) .nothing
  | quarantined {left : List String} (some : left ≠ [])
      (scanned : c.scan documentId = .ok .failedScan) :
      Passes c documentId (.ok left) (.error (.notAvailable ScanStatus.failedScan.message)) .nothing
  | passed {left : List String} {outcome : Except ServiceFailure Unit} {effect : Effect}
      (some : left ≠ []) (clears : Clears (c.scan documentId))
      (asks : Asks documentId left outcome effect) : Passes c documentId (.ok left) outcome effect

namespace Passes

variable {chosen : Except ServiceFailure (List String)} {outcome : Except ServiceFailure Unit}
  {effect : Effect}

/-- An initiation that adds something has passed. -/
theorem needs (passes : Passes c documentId chosen outcome effect)
    (adds : effect.requests ≠ [] ∨ effect.rows ≠ []) :
    Clears (c.scan documentId) ∧ ∃ left, chosen = .ok left ∧ left ≠ [] := by
  cases passes with
  | unknown | idle | unanswered | quarantined => simp [Effect.nothing] at adds
  | passed some clears => exact ⟨clears, _, rfl, some⟩

/-- An initiation that is not let pass fails and adds nothing. -/
theorem refuses (passes : Passes c documentId chosen outcome effect) (same : chosen = .ok left)
    (some : left ≠ []) (closed : ¬Clears (c.scan documentId)) :
    (∃ failure, outcome = .error failure) ∧ effect = .nothing := by
  cases passes with
  | unknown => cases same
  | idle =>
      cases same
      contradiction
  | unanswered | quarantined => exact ⟨⟨_, rfl⟩, rfl⟩
  | passed _ clears => exact absurd clears closed

end Passes

/-- The choice of processors changes nothing. -/
theorem filter_cases (c : Collaborators π) (documentId : Uuid) (processorIds : List String)
    (again : Bool) (s : Service) :
    ∃ chosen t, filter c documentId processorIds again s = (chosen, t) ∧ Effect.nothing.Leads s t := by
  cases again with
  | true => exact ⟨.ok processorIds, s, rfl, .refl s⟩
  | false =>
      obtain ⟨outcome, asked⟩ := ask_cases c (·.findFrom documentId processorIds) s
      cases outcome with
      | error failure => exact ⟨_, _, bind_error asked, { Effect.Leads.refl s with }⟩
      | ok existing =>
          obtain ⟨t, told, leads⟩ := tellProcessed_cases documentId existing { s with finds := s.finds + 1 }
          exact ⟨_, t, (bind_ok asked).trans (bind_ok told), { leads with }⟩

/-- Only the answer for the scan opens the gate. -/
theorem clear_passes (c : Collaborators π) (documentId : Uuid) (left : List String) (s : Service) :
    ∃ outcome effect t, clear c documentId left s = (outcome, t) ∧ effect.Leads s t ∧
      Passes c documentId (.ok left) outcome effect := by
  cases left with
  | nil => exact ⟨_, _, _, rfl, leads_log _, .idle⟩
  | cons processorId rest =>
      have some : processorId :: rest ≠ [] := List.cons_ne_nil _ _
      rw [clear_of_ne_nil c documentId some]
      cases scanned : c.scan documentId with
      | error failure => exact ⟨_, _, s, rfl, .refl s, .unanswered some scanned⟩
      | ok status =>
          cases status with
          | failedScan => exact ⟨_, _, _, rfl, leads_log _, .quarantined some scanned⟩
          | ready | awaitingScan =>
              have told := leads_log (s := s)
                [⟨.debug, "Enqueuing processing request", [("doc_id", documentId.text)]⟩]
              obtain ⟨outcome, effect, t, enqueued, leads, asks⟩ :=
                enqueue_asks c documentId (processorId :: rest) _
              have whole := told.trans leads
              rw [Effect.nothing_append] at whole
              exact ⟨outcome, effect, t, (tell_bind ..).trans enqueued, whole,
                .passed some ⟨_, scanned, by decide⟩ asks⟩

/-- An initiation requests something or saves a row only if processors are left and the scan lets the document
pass. -/
theorem initiate_passes (c : Collaborators π) (documentId : Uuid) (processorIds : List String)
    (again : Bool) (s : Service) :
    ∃ outcome effect t, initiate c documentId processorIds again s = (outcome, t) ∧
      effect.Leads s t ∧
      Passes c documentId (filter c documentId processorIds again s).1 outcome effect := by
  obtain ⟨chosen, t, filtered, quiet⟩ := filter_cases c documentId processorIds again s
  rw [initiate_eq, filtered]
  cases chosen with
  | error failure => exact ⟨_, _, t, bind_error filtered, quiet, .unknown⟩
  | ok left =>
      obtain ⟨outcome, effect, u, cleared, leads, passes⟩ := clear_passes c documentId left t
      have whole := quiet.trans leads
      rw [Effect.nothing_append] at whole
      exact ⟨outcome, effect, u, (bind_ok filtered).trans cleared, whole, passes⟩

end Service

/-- The scan service gives a status just if it answers with success and a body that is decoded as the status. -/
theorem ScanService.status_ok {service : ScanService} {transport : Http.Transport} {documentId : Uuid}
    {status : ScanStatus} :
    service.status transport documentId = .ok status ↔
      ∃ response, transport (service.request documentId) = .answered response ∧
        response.isSuccess = true ∧ response.complete = true ∧
        Json.decodeBytes ScanStatus.answerShape.decode response.body = .ok status := by
  unfold ScanService.status
  cases transport (service.request documentId) with
  | unreachable => simp [answer]
  | answered response =>
      simp only [answer, Http.Exchange.answered.injEq, exists_eq_left', Http.Response.whole?]
      cases success : response.isSuccess with
      | false => simp
      | true =>
          cases complete : response.complete with
          | false => simp
          | true =>
              cases read : Json.decodeBytes ScanStatus.answerShape.decode response.body with
              | error fault => simp [read]
              | ok other => simp [read]

/-- A document is let pass by a success whose whole body tells one of two statuses, and by nothing else. -/
theorem ScanService.clears_iff {service : ScanService} {transport : Http.Transport}
    {documentId : Uuid} :
    Service.Clears (service.status transport documentId) ↔ ∃ response status,
      transport (service.request documentId) = .answered response ∧ response.isSuccess = true ∧
      response.complete = true ∧ Json.decodeBytes ScanStatus.answerShape.decode response.body = .ok status ∧
      (status = .ready ∨ status = .awaitingScan) := by
  constructor
  · rintro ⟨status, told, passed⟩
    obtain ⟨response, answered, success, complete, read⟩ := status_ok.mp told
    refine ⟨response, status, answered, success, complete, read, ?_⟩
    cases status with
    | ready => exact .inl rfl
    | awaitingScan => exact .inr rfl
    | failedScan => exact absurd rfl passed
  · rintro ⟨response, status, answered, success, complete, read, passed⟩
    refine ⟨status, status_ok.mpr ⟨response, answered, success, complete, read⟩, ?_⟩
    rintro rfl
    simp at passed

/-- A body with a byte that is no text, in a member that nobody asks for. -/
example :
    let body (front back : String) : List UInt8 :=
      (front.toList.map fun c => .ofNat c.toNat) ++ 0xE9 :: back.toList.map fun c => .ofNat c.toNat
    (Json.decodeBytes ScanStatus.answerShape.decode
      (body "\x7b\"scanStatus\":\"READY\",\"note\":\"" "\"\x7d")).toOption = some .ready := by
  decide +kernel

end Dossier
