import Dossier.Proofs.Service.Documents
import Dossier.Proofs.Service.Latest
import Dossier.Proofs.Service.Work

/-! # Independence of documents

Operations for different documents do not affect each other, one after the other in any order, on either store: what
an operation answers depends on the earlier operations for its own document only, and so do the messages of the
document. Main statements: `World.perform_other`, `World.perform_own` and `documents_independent`.
-/

namespace Dossier.Service

section

variable {c : Collaborators Endpoint} {scan : Uuid → Except ScanFailure ScanStatus} {documentId : Uuid}

theorem enqueue_scan (left : List String) : enqueue { c with scan } documentId left = enqueue c documentId left := by
  induction left with
  | nil => rfl
  | cons processorId rest ih => exact congrArg (fun further => request c documentId processorId >>= fun _ => further) ih

theorem grant_scan (left : List String) (answer : Except ScanFailure ScanStatus) :
    grant { c with scan } documentId left answer = grant c documentId left answer := by
  cases answer with
  | error failure => rfl
  | ok status =>
      cases status with
      | failedScan => rfl
      | ready | awaitingScan =>
          exact congrArg (fun further => tell .debug "Enqueuing processing request" [("doc_id", documentId.text)] >>=
            fun _ => further) (enqueue_scan left)

/-- An initiation goes by no scan but that of its document. -/
theorem initiate_congr (scanned : c.scan documentId = scan documentId) (processorIds : List String) (again : Bool) :
    initiate c documentId processorIds again = initiate { c with scan } documentId processorIds again := by
  rw [initiate_eq, initiate_eq]
  refine congrArg (filter c documentId processorIds again >>= ·) (funext fun left => ?_)
  by_cases none : left = []
  · subst none
    rfl
  · rw [clear_of_ne_nil c documentId none, clear_of_ne_nil _ documentId none, scanned]
    exact (grant_scan left (scan documentId)).symm

end

/-- What can be asked of a service. -/
inductive Operation where
  | initiate (documentId : Uuid) (processorIds : List String) (again : Bool)
  | execute (documentId : Uuid) (processorId : String)
  | save (row : Row)
  | results (documentId : Uuid)
  | resultsFrom (documentId : Uuid) (processorIds : List String)

def Operation.documentId : Operation → Uuid
  | .initiate documentId _ _ | .execute documentId _ | .results documentId
  | .resultsFrom documentId _ => documentId
  | .save row => row.documentId

inductive Answer where
  | done (outcome : Except ServiceFailure Unit)
  | executed (outcome : Except ProcessingFailure Row)
  | found (outcome : Except ServiceFailure (List Row))

namespace Operation

variable (c : Collaborators Endpoint) (process : Endpoint → Uuid → Except ProcessorFailure Row)

/-- What the service does. -/
def act : Operation → StateM Service Answer
  | .initiate documentId processorIds again =>
      .done <$> (Service.initiate c documentId processorIds again).run
  | .execute documentId processorId => .executed <$> (Service.execute c process documentId processorId).run
  | .save row => .done <$> (Service.save c row).run
  | .results documentId => .found <$> (Service.results c documentId).run
  | .resultsFrom documentId processorIds => .found <$> (Service.resultsFrom c documentId processorIds).run

/-- The documents whose scans are looked up meanwhile. -/
def lookups (s : Service) : Operation → List Uuid
  | .initiate documentId processorIds again =>
      ((Work.initiate c documentId processorIds again).lookups (others c process) s).map (·.documentId)
  | .execute _ _ | .save _ | .results _ | .resultsFrom _ _ => []

/-- The processors that are called meanwhile, each with its document. -/
def calls : Operation → List (String × Uuid)
  | .execute documentId processorId => (c.registry.find? processorId).toList.map fun processor =>
      (processor.duty.id, documentId)
  | .initiate _ _ _ | .save _ | .results _ | .resultsFrom _ _ => []

variable {c process} (saves : ∀ n, c.saveFault n = none) (answers : ∀ n, c.findFault n = none)
  (apt : ∀ e documentId row, process e documentId = .ok row → row.documentId = documentId)

include saves answers apt in
/-- An operation is a task that minds its document. -/
theorem exists_task (operation : Operation) : ∃ (ε α : Type) (task : Task Endpoint ε α)
    (wrap : Except ε α → Answer), task.Minds operation.documentId ∧
      operation.act c process = fun s => (wrap (task.run s).1, (task.run s).2) := by
  have own {documentId : Uuid} {ε α : Type} {task : Task Endpoint ε α}
      (deeds : task.All (Deed.For c (·.documentId = documentId) documentId)) : task.Minds documentId :=
    deeds.mono fun _ => Deed.For.minds saves answers fun _ same => same
  cases operation with
  | initiate documentId processorIds again =>
      refine ⟨_, _, _, .done, own (Task.for_initiate processorIds again), ?_⟩
      rw [Task.run_initiate]
      rfl
  | execute documentId processorId =>
      rw [act, execute_eq]
      cases c.registry.find? processorId with
      | none =>
          refine ⟨_, _, _, .executed, own (Task.for_refuse processorId), ?_⟩
          rw [Task.run_refuse]
          rfl
      | some processor =>
          refine ⟨_, _, _, .executed, own (Task.for_settle processorId processor
            (apt processor.duty documentId)), ?_⟩
          rw [Task.run_settle]
          rfl
  | save row => exact ⟨_, _, Task.save c row, .done, Task.all_save ⟨rfl, saves⟩, rfl⟩
  | results documentId =>
      refine ⟨_, _, _, .found, own ((Task.all_ask .find).bind fun rows =>
        Task.all_pure (Row.sortByTime rows)), ?_⟩
      rw [Task.run_bind]
      rfl
  | resultsFrom documentId processorIds =>
      exact ⟨_, _, _, .found, own (Task.all_ask (.findFrom processorIds)), rfl⟩

/-- Only what is answered for its document makes a difference. -/
theorem act_congr {operation : Operation} {process' : Endpoint → Uuid → Except ProcessorFailure Row}
    {scan : Uuid → Except ScanFailure ScanStatus}
    (scanned : c.scan operation.documentId = scan operation.documentId)
    (same : ∀ e, process e operation.documentId = process' e operation.documentId) :
    operation.act c process = operation.act { c with scan } process' := by
  cases operation with
  | initiate documentId processorIds again =>
      exact congrArg (fun attempt => Answer.done <$> attempt.run) (initiate_congr scanned processorIds again)
  | execute documentId processorId =>
      have alike (e : Endpoint) : process e documentId = process' e documentId := same e
      simp only [act, execute_eq, alike]
      rfl
  | save | results | resultsFrom => rfl

variable {s t : Service}

theorem lookups_own (operation : Operation) :
    ∀ asked ∈ operation.lookups c process s, asked = operation.documentId := by
  intro asked member
  cases operation with
  | initiate documentId processorIds again =>
      rw [lookups, Work.lookups_initiate] at member
      split at member
      · exact List.mem_singleton.mp member
      · cases member
      · cases member
  | execute | save | results | resultsFrom => cases member

theorem calls_own (operation : Operation) :
    ∀ called ∈ operation.calls c, called.2 = operation.documentId := by
  intro called member
  cases operation with
  | execute documentId processorId =>
      obtain ⟨processor, -, rfl⟩ := List.mem_map.mp member
      rfl
  | initiate | save | results | resultsFrom => cases member

include saves answers in
/-- Whether the scan is looked up depends on nothing but the share of the document. -/
theorem lookups_alike {operation : Operation} (scan : Uuid → Except ScanFailure ScanStatus)
    (process' : Endpoint → Uuid → Except ProcessorFailure Row) (lasting : s.Lasting)
    (lasting' : t.Lasting) (readings : s.readings = t.readings)
    (same : share operation.documentId s = share operation.documentId t) :
    operation.lookups c process s = operation.lookups { c with scan } process' t := by
  cases operation with
  | initiate documentId processorIds again =>
      have deeds : (Task.filter c documentId processorIds again).All (Deed.For c (fun _ => False) documentId) :=
        Task.for_filter processorIds again
      have minds : (Task.filter c documentId processorIds again).Minds documentId :=
        deeds.mono fun _ => Deed.For.minds saves answers fun _ never => never.elim
      have chosen := (Task.run_own minds lasting lasting' same readings).1
      rw [Task.run_filter] at chosen
      have alike : Service.filter { c with scan } documentId processorIds again =
        Service.filter c documentId processorIds again := rfl
      simp only [lookups, Work.lookups_initiate, alike, chosen]
      split <;> rfl
  | execute | save | results | resultsFrom => rfl

end Operation

/-- An operation, with what it reads off the clock each time. -/
structure Occasion where
  operation : Operation
  clock : Nat → Timestamp

/-- Whether an occasion is for a document. -/
def Occasion.isFor (documentId : Uuid) (occasion : Occasion) : Bool :=
  occasion.operation.documentId == documentId

/-- Those whom a service asks. They answer anything, but what they answer for a document depends on that and on how
often they were asked for it before. -/
structure Surroundings where
  endpoints : List Endpoint
  scan : Uuid → Nat → Except ScanFailure ScanStatus
  exchange : Endpoint → Uuid → Nat → Http.Exchange

/-- A service, with all that others were asked so far. -/
structure World where
  service : Service
  /-- The documents whose scans were looked up. -/
  lookups : List Uuid := []
  /-- The processors that were called, each with its document. -/
  calls : List (String × Uuid) := []

namespace World

/-- Whom a service works with on an occasion. -/
def collaborators (u : Surroundings) (w : World) (occasion : Occasion) : Collaborators Endpoint :=
  .reliable u.endpoints (fun documentId => u.scan documentId (w.lookups.count documentId)) occasion.clock

/-- What a processor answers when it is called for a document. -/
def process (u : Surroundings) (w : World) (e : Endpoint) (documentId : Uuid) :
    Except ProcessorFailure Row :=
  e.answer documentId (u.exchange e documentId (w.calls.count (e.id, documentId)))

/-- The answer to an operation, and the world after it. -/
def perform (u : Surroundings) (w : World) (occasion : Occasion) : Answer × World :=
  let c := collaborators u w occasion
  let s := { w.service with readings := 0 }
  let (answer, service) := occasion.operation.act c (process u w) s
  (answer, {
    service
    lookups := w.lookups ++ occasion.operation.lookups c (process u w) s
    calls := w.calls ++ occasion.operation.calls c })

/-- Operations one after the other, each with its answer, and the world after them. -/
def run (u : Surroundings) (w : World) : List Occasion → List (Occasion × Answer) × World
  | [] => ([], w)
  | occasion :: rest =>
      let (answer, next) := perform u w occasion
      let (answers, last) := run u next rest
      ((occasion, answer) :: answers, last)

/-- What there is of a document. -/
noncomputable def share (documentId : Uuid) (w : World) : Share × Nat × (String → Nat) :=
  (w.service.share documentId, w.lookups.count documentId, fun processorId =>
    w.calls.count (processorId, documentId))

variable {u : Surroundings} {w v : World} {occasion : Occasion} {documentId : Uuid}

/-- The task of an occasion. -/
theorem exists_task (u : Surroundings) (w : World) (occasion : Occasion) : ∃ (ε α : Type)
    (task : Task Endpoint ε α) (wrap : Except ε α → Answer), task.Minds occasion.operation.documentId ∧
      occasion.operation.act (collaborators u w occasion) (process u w) =
        fun s => (wrap (task.run s).1, (task.run s).2) :=
  occasion.operation.exists_task (fun _ => rfl) (fun _ => rfl) fun _ _ _ answered =>
    (Endpoint.answer_ok answered).1

theorem lasting_perform (lasting : w.service.Lasting) (occasion : Occasion) :
    (perform u w occasion).2.service.Lasting := by
  obtain ⟨ε, α, task, wrap, -, same⟩ := exists_task u w occasion
  simp only [perform, same]
  exact task.lasting (s := { w.service with readings := 0 }) lasting

/-- An operation for a document changes nothing of another. -/
theorem perform_other (different : occasion.operation.documentId ≠ documentId)
    (lasting : w.service.Lasting) : (perform u w occasion).2.share documentId = w.share documentId := by
  obtain ⟨ε, α, task, wrap, minds, same⟩ := exists_task u w occasion
  have service : Service.share documentId (perform u w occasion).2.service =
      Service.share documentId w.service := by
    simp only [perform, same]
    exact Task.run_other (s := { w.service with readings := 0 }) minds different lasting
  have unasked : ∀ asked : List Uuid, (∀ id ∈ asked, id = occasion.operation.documentId) →
      (w.lookups ++ asked).count documentId = w.lookups.count documentId := by
    intro asked all
    rw [List.count_append, List.count_eq_zero.mpr fun member => different (all _ member).symm, Nat.add_zero]
  have uncalled : ∀ called : List (String × Uuid), (∀ one ∈ called, one.2 = occasion.operation.documentId) →
      ∀ processorId, (w.calls ++ called).count (processorId, documentId) =
        w.calls.count (processorId, documentId) := by
    intro called all processorId
    rw [List.count_append, List.count_eq_zero.mpr fun member => different (all _ member).symm, Nat.add_zero]
  simp only [share, service]
  refine congrArg (Prod.mk _) (congrArg₂ Prod.mk (unasked _ (Operation.lookups_own _)) ?_)
  funext processorId
  exact uncalled _ (Operation.calls_own _) processorId

/-- An operation for a document goes by what there is of it. -/
theorem perform_own (own : occasion.operation.documentId = documentId)
    (lasting : w.service.Lasting) (lasting' : v.service.Lasting)
    (same : w.share documentId = v.share documentId) :
    (perform u w occasion).1 = (perform u v occasion).1 ∧
      (perform u w occasion).2.share documentId = (perform u v occasion).2.share documentId := by
  subst own
  obtain ⟨service, lookups, calls⟩ : Service.share _ w.service = Service.share _ v.service ∧
      w.lookups.count _ = v.lookups.count _ ∧ _ := by
    simpa only [share, Prod.mk.injEq] using same
  let scan (documentId : Uuid) := u.scan documentId (v.lookups.count documentId)
  have c : collaborators u v occasion = { collaborators u w occasion with scan } := rfl
  have scanned : (collaborators u w occasion).scan occasion.operation.documentId =
      scan occasion.operation.documentId :=
    congrArg (u.scan _) lookups
  have said (e : Endpoint) : process u w e occasion.operation.documentId =
      process u v e occasion.operation.documentId := by
    rw [process, process, show w.calls.count _ = v.calls.count _ from congrFun calls e.id]
  obtain ⟨ε, α, task, wrap, minds, act⟩ := exists_task u w occasion
  have act' := (Operation.act_congr scanned said).symm.trans act
  obtain ⟨ends, alike⟩ := Task.run_own (s := { w.service with readings := 0 })
    (t := { v.service with readings := 0 }) minds lasting lasting' service rfl
  have asked : occasion.operation.lookups (collaborators u w occasion) (process u w)
      { w.service with readings := 0 } = occasion.operation.lookups { collaborators u w occasion with scan }
        (process u v) { v.service with readings := 0 } :=
    Operation.lookups_alike (fun _ => rfl) (fun _ => rfl) scan (process u v) lasting lasting' rfl service
  have called : occasion.operation.calls (collaborators u w occasion) =
      occasion.operation.calls { collaborators u w occasion with scan } := by
    cases occasion.operation <;> rfl
  simp only [perform, c, act, act', ends, share, ← asked, ← called, List.count_append, lookups]
  refine ⟨trivial, congrArg₂ Prod.mk alike (congrArg (Prod.mk _) ?_)⟩
  funext processorId
  rw [show w.calls.count _ = v.calls.count _ from congrFun calls processorId]

variable {occasions occasions' : List Occasion}

theorem run_cons (occasion : Occasion) (rest : List Occasion) : run u w (occasion :: rest) =
    ((occasion, (perform u w occasion).1) :: (run u (perform u w occasion).2 rest).1,
      (run u (perform u w occasion).2 rest).2) := rfl

theorem run_append (earlier later : List Occasion) : run u w (earlier ++ later) =
    ((run u w earlier).1 ++ (run u (run u w earlier).2 later).1,
      (run u (run u w earlier).2 later).2) := by
  induction earlier generalizing w with
  | nil => rfl
  | cons occasion rest ih => simp only [List.cons_append, run_cons, ih]

theorem run_occasions (occasions : List Occasion) : (run u w occasions).1.map (·.1) = occasions := by
  induction occasions generalizing w with
  | nil => rfl
  | cons occasion rest ih => rw [run_cons, List.map_cons, ih]

theorem lasting_run (lasting : w.service.Lasting) (occasions : List Occasion) :
    (run u w occasions).2.service.Lasting := by
  induction occasions generalizing w with
  | nil => exact lasting
  | cons occasion rest ih => exact ih (lasting_perform lasting occasion)

/-- The answers for a document, and what there is of it in the end, are those of a run without all the rest. -/
theorem run_own (lasting : w.service.Lasting) (lasting' : v.service.Lasting)
    (same : w.share documentId = v.share documentId) (occasions : List Occasion) :
    (run u w occasions).1.filter (·.1.isFor documentId) =
        (run u v (occasions.filter (·.isFor documentId))).1 ∧
      (run u w occasions).2.share documentId =
        (run u v (occasions.filter (·.isFor documentId))).2.share documentId := by
  induction occasions generalizing w v with
  | nil => exact ⟨rfl, same⟩
  | cons occasion rest ih =>
      have lasts := lasting_perform (u := u) lasting occasion
      rw [run_cons, List.filter_cons, List.filter_cons]
      cases own : occasion.isFor documentId with
      | true =>
          have lasts' := lasting_perform (u := u) lasting' occasion
          obtain ⟨answer, after⟩ := perform_own (u := u) (beq_iff_eq.mp own) lasting lasting' same
          obtain ⟨answers, last⟩ := ih lasts lasts' after
          exact ⟨congrArg₂ (fun x rest => (occasion, x) :: rest) answer answers, last⟩
      | false =>
          have different : occasion.operation.documentId ≠ documentId := beq_eq_false_iff_ne.mp own
          exact ih lasts lasting' ((perform_other different lasting).trans same)

/-- Worlds with the same of all documents cannot be told from each other. -/
theorem run_alike (lasting : w.service.Lasting) (lasting' : v.service.Lasting)
    (same : ∀ documentId, w.share documentId = v.share documentId) (occasions : List Occasion) :
    (run u w occasions).1 = (run u v occasions).1 ∧
      ∀ documentId, (run u w occasions).2.share documentId = (run u v occasions).2.share documentId := by
  induction occasions generalizing w v with
  | nil => exact ⟨rfl, same⟩
  | cons occasion rest ih =>
      have lasts := lasting_perform (u := u) lasting occasion
      have lasts' := lasting_perform (u := u) lasting' occasion
      have answer : (perform u w occasion).1 = (perform u v occasion).1 :=
        (perform_own rfl lasting lasting' (same _)).1
      have after (documentId : Uuid) : (perform u w occasion).2.share documentId =
          (perform u v occasion).2.share documentId := by
        by_cases own : occasion.operation.documentId = documentId
        · exact (perform_own own lasting lasting' (same documentId)).2
        · rw [perform_other own lasting, perform_other own lasting', same]
      obtain ⟨answers, last⟩ := ih lasts lasts' after
      exact ⟨congrArg₂ (fun x rest => (occasion, x) :: rest) answer answers, last⟩

/-- Two operations for different documents can be swapped. -/
theorem perform_swap {a b : Occasion} (different : a.operation.documentId ≠ b.operation.documentId)
    (lasting : w.service.Lasting) :
    let first := perform u w a
    let first' := perform u w b
    (perform u first.2 b).1 = first'.1 ∧ (perform u first'.2 a).1 = first.1 ∧
      ∀ documentId, (perform u first.2 b).2.share documentId = (perform u first'.2 a).2.share documentId := by
  intro first first'
  have lasts : first.2.service.Lasting := lasting_perform lasting a
  have lasts' : first'.2.service.Lasting := lasting_perform lasting b
  have stays : first'.2.share a.operation.documentId = w.share a.operation.documentId :=
    perform_other different.symm lasting
  have stays' : first.2.share b.operation.documentId = w.share b.operation.documentId :=
    perform_other different lasting
  obtain ⟨answer, own⟩ := perform_own (u := u) rfl lasts' lasting stays
  obtain ⟨answer', own'⟩ := perform_own (u := u) rfl lasts lasting stays'
  refine ⟨answer', answer, fun documentId => ?_⟩
  by_cases isFirst : a.operation.documentId = documentId
  · subst isFirst
    rw [perform_other different.symm lasts, own]
  · by_cases isSecond : b.operation.documentId = documentId
    · subst isSecond
      rw [own', perform_other different lasts']
    · rw [perform_other isSecond lasts, perform_other isFirst lasting, perform_other isFirst lasts',
        perform_other isSecond lasting]

theorem messages_of_share (same : w.share documentId = v.share documentId) (channel : Channel) :
    messagesOf documentId channel w.service = messagesOf documentId channel v.service :=
  congrFun (congrArg (fun x => x.1.messages) same) channel

/-- In a run of operations from any world whose topics keep or lack their receivers for good, two neighbours for
different documents can be swapped: all operations have the same answers as before, and all documents the same
messages. Two runs with the same operations for a document have the same answers and messages for it, whatever is
done for others. -/
theorem documents_independent (u : Surroundings) {w : World} (lasting : w.service.Lasting) :
    (∀ (before after : List Occasion) (a b : Occasion),
      a.operation.documentId ≠ b.operation.documentId →
      ∃ earlier x y later v v',
        run u w (before ++ a :: b :: after) = (earlier ++ (a, x) :: (b, y) :: later, v) ∧
        run u w (before ++ b :: a :: after) = (earlier ++ (b, y) :: (a, x) :: later, v') ∧
        earlier.map (·.1) = before ∧ later.map (·.1) = after ∧
        ∀ documentId channel,
          messagesOf documentId channel v.service = messagesOf documentId channel v'.service) ∧
    ∀ (documentId : Uuid) (occasions occasions' : List Occasion),
      occasions.filter (·.isFor documentId) = occasions'.filter (·.isFor documentId) →
      (run u w occasions).1.filter (·.1.isFor documentId) =
          (run u w occasions').1.filter (·.1.isFor documentId) ∧
        ∀ channel, messagesOf documentId channel (run u w occasions).2.service =
          messagesOf documentId channel (run u w occasions').2.service := by
  refine ⟨fun before after a b different => ?_, fun documentId occasions occasions' same => ?_⟩
  · let m := (run u w before).2
    let n := (perform u (perform u m a).2 b).2
    let n' := (perform u (perform u m b).2 a).2
    have kept : m.service.Lasting := lasting_run lasting before
    obtain ⟨second, second', swapped⟩ := perform_swap (u := u) different kept
    have lasts : n.service.Lasting := lasting_perform (lasting_perform kept a) b
    have lasts' : n'.service.Lasting := lasting_perform (lasting_perform kept b) a
    obtain ⟨answers, last⟩ := run_alike (u := u) lasts lasts' swapped after
    refine ⟨(run u w before).1, (perform u m a).1, (perform u m b).1, (run u n after).1, (run u n after).2,
      (run u n' after).2, ?_, ?_, run_occasions before, run_occasions after,
      fun documentId => messages_of_share (last documentId)⟩
    · rw [run_append, run_cons, run_cons, second]
    · rw [run_append, run_cons, run_cons, second', answers]
  · have whole : w.share documentId = w.share documentId := rfl
    obtain ⟨answers, last⟩ := run_own (u := u) lasting lasting whole occasions
    obtain ⟨answers', last'⟩ := run_own (u := u) lasting lasting whole occasions'
    exact ⟨answers.trans (same ▸ answers'.symm), messages_of_share (last.trans (same ▸ last'.symm))⟩

/-- Requests for two documents. -/
theorem requests_independent :
    let u : Surroundings :=
      ⟨[⟨"pages", "http://127.0.0.1/pages"⟩], fun _ _ => .ok .ready, fun _ _ _ => .unreachable⟩
    let w : World := { service := { store := .empty } }
    let a : Occasion := ⟨.initiate ⟨1⟩ ["pages"] false, dayClock⟩
    let b : Occasion := ⟨.initiate ⟨2⟩ ["pages"] false, dayClock⟩
    (run u w [a, b]).1 = (run u w [b, a]).1.reverse ∧
      (run u w [a, b]).1.filter (·.1.isFor ⟨1⟩) = (run u w [a]).1.filter (·.1.isFor ⟨1⟩) ∧
      messagesOf ⟨1⟩ .requests (run u w [a, b]).2.service =
        messagesOf ⟨1⟩ .requests (run u w [a]).2.service := by
  intro u w a b
  have lasting : w.service.Lasting := fun channel => .inl (by cases channel <;> rfl)
  obtain ⟨swap, alone⟩ := documents_independent u lasting
  obtain ⟨earlier, x, y, later, v, v', ran, ran', none, none', -⟩ := swap [] [] a b (by decide)
  obtain rfl := List.map_eq_nil_iff.mp none
  obtain rfl := List.map_eq_nil_iff.mp none'
  obtain ⟨answers, messages⟩ := alone ⟨1⟩ [a, b] [a] rfl
  refine ⟨?_, answers, messages .requests⟩
  rw [List.nil_append] at ran ran'
  rw [ran, ran']
  rfl

end World

end Dossier.Service
