import Dossier.Proofs.Service.Latest
import Dossier.Proofs.Service.Requesting

/-! # Initiations that are repeated

A processor that has a row for a document is left out, so of all initiations that follow one another only one
requests it: the first that lists it while the document is not in quarantine. That one looks into the store
once, before it requests anything, so it requests the processor as often as it lists it. Main statement:
`requested_as_listed`.
-/

namespace Dossier

variable {π : Type}

namespace Effect

/-- How many requests for a processor on a document are added. -/
def requestsFor (documentId : Uuid) (processorId : String) (e : Effect) : Nat :=
  e.requests.count (.asking documentId processorId)

/-- How many rows of a document and a processor are added. -/
def rowsFor (documentId : Uuid) (processorId : String) (e : Effect) : Nat :=
  e.rows.countP (Row.isOf documentId processorId)

theorem any_rows (e : Effect) (documentId : Uuid) (processorId : String) :
    e.rows.any (Row.isOf documentId processorId) = true ↔ 0 < e.rowsFor documentId processorId := by
  rw [rowsFor, List.countP_pos_iff, List.any_eq_true]

/-- Whether nothing is added but requests and pending rows. -/
structure OnlyRequests (e : Effect) : Prop where
  rows : ∀ row ∈ e.rows, row.status = .pending
  requests : ∀ d ∈ e.requests, ∃ documentId processorId, d = .asking documentId processorId
  completions : e.completions = []
  events : e.events = []

variable {a b : Effect} {documentId : Uuid} {processorId : String}

@[simp]
theorem requestsFor_append : (a ++ b).requestsFor documentId processorId =
    a.requestsFor documentId processorId + b.requestsFor documentId processorId :=
  List.count_append ..

@[simp]
theorem rowsFor_append : (a ++ b).rowsFor documentId processorId =
    a.rowsFor documentId processorId + b.rowsFor documentId processorId :=
  List.countP_append ..

theorem onlyRequests_nothing : nothing.OnlyRequests :=
  ⟨by simp [nothing], by simp [nothing], rfl, rfl⟩

theorem OnlyRequests.append (first : a.OnlyRequests) (second : b.OnlyRequests) :
    (a ++ b).OnlyRequests where
  rows := List.forall_mem_append.mpr ⟨first.rows, second.rows⟩
  requests := List.forall_mem_append.mpr ⟨first.requests, second.requests⟩
  completions := List.append_eq_nil_iff.mpr ⟨first.completions, second.completions⟩
  events := List.append_eq_nil_iff.mpr ⟨first.events, second.events⟩

variable (c : Collaborators π) (reading : Nat) (processorIds : List String)

theorem onlyRequests_requesting : (requesting c documentId reading processorIds).OnlyRequests := by
  induction processorIds generalizing reading with
  | nil => exact onlyRequests_nothing
  | cons processorId rest ih =>
      refine .append ⟨?_, ?_, rfl, rfl⟩ (ih _)
      · simp [Row.pending]
      · simp only [List.mem_singleton, forall_eq]
        exact ⟨documentId, processorId, rfl⟩

/-- Each processor is requested as often as it is listed, and each request is recorded. -/
theorem requesting_counts (asked documentId : Uuid) (processorId : String) :
    (requesting c asked reading processorIds).requestsFor documentId processorId =
        (if asked = documentId then processorIds.count processorId else 0) ∧
      (requesting c asked reading processorIds).rowsFor documentId processorId =
        (if asked = documentId then processorIds.count processorId else 0) := by
  induction processorIds generalizing reading with
  | nil => simp [requesting, nothing, requestsFor, rowsFor]
  | cons listed rest ih =>
      obtain ⟨requests, rows⟩ := ih (reading + 1)
      simp only [requesting, requestsFor_append, rowsFor_append, requests, rows]
      simp only [requestsFor, rowsFor, List.count_cons, List.count_nil, List.countP_singleton,
        Row.isOf, Row.pending, beq_iff_eq, Delivery.asking_inj, Bool.and_eq_true]
      by_cases same : asked = documentId
      · simp only [same, true_and, if_true]
        omega
      · simp [same]

end Effect

namespace Service

/-- An initiation as it is asked for, and what the scans of documents say at that time. -/
structure Asking where
  documentId : Uuid
  processorIds : List String
  scan : Uuid → ScanStatus

/-- The collaborators, with scans as they stand. -/
def scanning (c : Collaborators π) (scan : Uuid → ScanStatus) : Collaborators π :=
  { c with scan := fun documentId => .ok (scan documentId) }

/-- The service after some initiations, one after the other. -/
def askAll (c : Collaborators π) (s : Service) (asks : List Asking) : Service :=
  asks.foldl (fun s ask =>
    (initiate (scanning c ask.scan) ask.documentId ask.processorIds false s).2) s

/-- Whether a processor is listed for a document that is not in quarantine. -/
def Asking.Grants (ask : Asking) (documentId : Uuid) (processorId : String) : Prop :=
  ask.documentId = documentId ∧ processorId ∈ ask.processorIds ∧ ask.scan documentId ≠ .failedScan

instance (ask : Asking) (documentId : Uuid) (processorId : String) :
    Decidable (ask.Grants documentId processorId) :=
  inferInstanceAs (Decidable (_ ∧ _ ∧ _))

/-- How often the first initiation that grants a processor on a document lists it. -/
def granted (asks : List Asking) (documentId : Uuid) (processorId : String) : Nat :=
  match asks.find? fun ask => ask.Grants documentId processorId with
  | some ask => ask.processorIds.count processorId
  | none => 0

variable {c : Collaborators π} {s : Service} {rows : List Row}

theorem granted_cons_of_grants {ask : Asking} {documentId : Uuid} {processorId : String}
    (grants : ask.Grants documentId processorId) (asks : List Asking) :
    granted (ask :: asks) documentId processorId = ask.processorIds.count processorId := by
  simp [granted, grants]

theorem granted_cons_of_not_grants {ask : Asking} {documentId : Uuid} {processorId : String}
    (refuses : ¬ask.Grants documentId processorId) (asks : List Asking) :
    granted (ask :: asks) documentId processorId = granted asks documentId processorId := by
  simp [granted, refuses]

theorem granted_le_one {asks : List Asking} (once : ∀ ask ∈ asks, ask.processorIds.Nodup)
    (documentId : Uuid) (processorId : String) : granted asks documentId processorId ≤ 1 := by
  unfold granted
  split
  · rename_i ask found
    exact List.nodup_iff_count.mp (once ask (List.mem_of_find?_eq_some found)) processorId
  · exact Nat.zero_le 1

/-- What a first initiation requests and what the others do after it. -/
theorem granted_cons (ask : Asking) (asks : List Asking) (documentId : Uuid) (processorId : String) :
    granted (ask :: asks) documentId processorId =
      granted [ask] documentId processorId +
        if 0 < granted [ask] documentId processorId then 0 else granted asks documentId processorId := by
  by_cases grants : ask.Grants documentId processorId
  · have listed : 0 < ask.processorIds.count processorId := List.count_pos_iff.mpr grants.2.1
    simp only [granted_cons_of_grants grants, listed, if_true, Nat.add_zero]
  · simp only [granted_cons_of_not_grants grants]
    simp [granted]

theorem count_missing (documentId : Uuid) (processorIds : List String) (processorId : String) :
    (missing rows documentId processorIds).count processorId =
      if rows.any (Row.isOf documentId processorId) then 0 else processorIds.count processorId := by
  unfold missing
  cases known : rows.any (Row.isOf documentId processorId) with
  | true => simp [List.count_eq_zero, known]
  | false => simpa using List.count_filter (by simp [known])

/-- An initiation adds requests for processors that it grants and that have no row, as often as it lists
them. -/
theorem initiate_counts (saves : ∀ n, c.saveFault n = none) (answers : c.findFault s.finds = none)
    (held : s.store = .memory rows) (endless : (s.topics.get .requests).lifetime = none)
    (ask : Asking) :
    ∃ (outcome : Except ServiceFailure Unit) (effect : Effect) (t : Service),
      initiate (scanning c ask.scan) ask.documentId ask.processorIds false s = (outcome, t) ∧
      effect.Leads s t ∧ effect.OnlyRequests ∧ ∀ documentId processorId,
        let times := if rows.any (Row.isOf documentId processorId) then 0
          else granted [ask] documentId processorId
        effect.requestsFor documentId processorId = times ∧
          effect.rowsFor documentId processorId = times := by
  obtain ⟨outcome, t, ends, -, leads⟩ := initiate_memory (c := scanning c ask.scan) saves answers held
    endless rfl ask.processorIds
  refine ⟨outcome, _, t, ends, leads, Effect.onlyRequests_requesting .., fun documentId processorId => ?_⟩
  have times : (if ask.documentId = documentId then
        (if ask.scan ask.documentId = .failedScan then []
          else missing rows ask.documentId ask.processorIds).count processorId else 0) =
      if rows.any (Row.isOf documentId processorId) then 0
        else granted [ask] documentId processorId := by
    by_cases same : ask.documentId = documentId
    · subst same
      by_cases failed : ask.scan ask.documentId = .failedScan
      · simp [granted, Asking.Grants, failed]
      · simp only [if_true, failed, if_false, count_missing]
        by_cases listed : processorId ∈ ask.processorIds
        · simp [granted, Asking.Grants, failed, listed]
        · simp [granted, Asking.Grants, listed, List.count_eq_zero]
    · simp [granted, Asking.Grants, same]
  obtain ⟨requests, records⟩ := Effect.requesting_counts (scanning c ask.scan) s.readings
    (if ask.scan ask.documentId = .failedScan then []
      else missing rows ask.documentId ask.processorIds) ask.documentId documentId processorId
  exact ⟨requests.trans times, records.trans times⟩

theorem askAll_counts (saves : ∀ n, c.saveFault n = none) (finds : ∀ n, c.findFault n = none)
    (held : s.store = .memory rows) (endless : (s.topics.get .requests).lifetime = none)
    (asks : List Asking) :
    ∃ effect : Effect, effect.Leads s (askAll c s asks) ∧ effect.OnlyRequests ∧
      ∀ documentId processorId,
        let times := if rows.any (Row.isOf documentId processorId) then 0
          else granted asks documentId processorId
        effect.requestsFor documentId processorId = times ∧
          effect.rowsFor documentId processorId = times := by
  induction asks generalizing s rows with
  | nil => exact ⟨.nothing, .refl s, Effect.onlyRequests_nothing, by simp [Effect.requestsFor,
      Effect.rowsFor, Effect.nothing, granted]⟩
  | cons ask asks ih =>
      obtain ⟨outcome, effect, t, ends, leads, only, counts⟩ :=
        initiate_counts saves (finds _) held endless ask
      have kept : t.store = .memory (rows ++ effect.rows) := by
        have saved := leads.store
        rw [held, Store.saveAll_memory] at saved
        exact (Except.ok.inj saved).symm
      have willing : s.Willing := ⟨⟨rows, held ▸ Store.Holds.memory rows⟩, endless⟩
      obtain ⟨further, rest, onlyRest, countsRest⟩ := ih kept (willing.leads leads).endless
      have step : askAll c s (ask :: asks) = askAll c t asks := by
        rw [askAll, List.foldl_cons, ends]
        rfl
      refine ⟨effect ++ further, step ▸ leads.trans rest, only.append onlyRest,
        fun documentId processorId => ?_⟩
      obtain ⟨requests, records⟩ := counts documentId processorId
      obtain ⟨requestsRest, recordsRest⟩ := countsRest documentId processorId
      rw [Effect.requestsFor_append, Effect.rowsFor_append, requests, records, requestsRest,
        recordsRest, List.any_append, granted_cons]
      -- The processors that the first initiation requests have rows when the others come.
      cases known : rows.any (Row.isOf documentId processorId) with
      | true => simp
      | false =>
          have requested := effect.any_rows documentId processorId
          rw [records, known] at requested
          simp only [Bool.false_or, Bool.false_eq_true, if_false, requested, and_self]

/-- Initiations that follow one another add requests and pending rows only: none for a processor that had a
row for the document, and for each other one as many as the first initiation lists that grants it. -/
theorem requested_as_listed (c : Collaborators π) (saves : ∀ n, c.saveFault n = none)
    (finds : ∀ n, c.findFault n = none) (start : Service) (rows : List Row)
    (held : start.store = .memory rows) (endless : (start.topics.get .requests).lifetime = none)
    (asks : List Asking) :
    ∃ effect : Effect, effect.Leads start (askAll c start asks) ∧ effect.OnlyRequests ∧
      ∀ documentId processorId,
        let times := if rows.any (Row.isOf documentId processorId) then 0
          else granted asks documentId processorId
        effect.requestsFor documentId processorId = times ∧
          effect.rowsFor documentId processorId = times ∧
          ((∀ ask ∈ asks, ask.processorIds.Nodup) → times ≤ 1) := by
  obtain ⟨effect, leads, only, counts⟩ := askAll_counts saves finds held endless asks
  refine ⟨effect, leads, only, fun documentId processorId => ?_⟩
  obtain ⟨requests, records⟩ := counts documentId processorId
  refine ⟨requests, records, fun once => ?_⟩
  have few := granted_le_one once documentId processorId
  split
  · exact Nat.zero_le 1
  · exact few

/-- Of two initiations that list the dates of a document only the first requests them, and none requests its
pages, which have a row. -/
theorem listed_again_requested_once :
    let c : Collaborators Endpoint := .reliable [] (fun _ => .ok .ready) dayClock
    let start : Service := { store := .memory [.pending ⟨1⟩ "pages" (dayClock 0)] }
    let asks : List Asking :=
      [⟨⟨1⟩, ["pages", "dates"], fun _ => .ready⟩, ⟨⟨1⟩, ["dates", "names"], fun _ => .awaitingScan⟩]
    ∃ effect : Effect, effect.Leads start (askAll c start asks) ∧
      effect.requestsFor ⟨1⟩ "dates" = 1 ∧ effect.rowsFor ⟨1⟩ "dates" = 1 ∧
      effect.requestsFor ⟨1⟩ "pages" = 0 ∧ effect.rowsFor ⟨1⟩ "pages" = 0 := by
  intro c start asks
  obtain ⟨effect, leads, -, counts⟩ := requested_as_listed c (fun _ => rfl) (fun _ => rfl) start _ rfl
    rfl asks
  obtain ⟨dates, dateRows, -⟩ := counts ⟨1⟩ "dates"
  obtain ⟨pages, pageRows, -⟩ := counts ⟨1⟩ "pages"
  exact ⟨effect, leads, dates.trans (by decide), dateRows.trans (by decide), pages.trans (by decide),
    pageRows.trans (by decide)⟩

/-- A processor that one initiation lists twice is requested twice. -/
theorem listed_twice_requested_twice :
    let c : Collaborators Endpoint := .reliable [] (fun _ => .ok .ready) dayClock
    let s := (initiate c ⟨1⟩ ["pages", "pages"] false { store := .empty }).2
    s.topics.requests.sent = [.asking ⟨1⟩ "pages", .asking ⟨1⟩ "pages"] ∧
      s.saved = [.pending ⟨1⟩ "pages" (dayClock 0), .pending ⟨1⟩ "pages" (dayClock 1)] := by
  intro c s
  let start : Service := { store := .empty }
  have held : start.store = .memory [] := rfl
  obtain ⟨outcome, t, ends, -, leads⟩ := initiate_memory (c := c) (fun _ => rfl) rfl held rfl
    (rfl : c.scan ⟨1⟩ = .ok .ready) ["pages", "pages"]
  have after : s = t := congrArg Prod.snd ends
  have sent := leads.topics .requests
  rw [Topic.sendAll_of_endless rfl] at sent
  rw [after]
  exact ⟨(congrArg Topic.sent (Option.some.inj sent)).symm, leads.saved⟩

end Service

end Dossier
