import Dossier.Proofs.Row.Sorting
import Dossier.Proofs.Service.Endpoint
import Dossier.Proofs.Service.Initiation
import Dossier.Proofs.Service.Outcome
import Dossier.Proofs.Service.Results

/-! # The latest row of a pair

Pending rows and those of unprocessable documents are dated by the clock of the service, results by whoever
found them. So the row that ends an execution counts as the latest of its pair just if no earlier row of the
pair has a later timestamp. Main statement: `latest_iff`.
-/

namespace Dossier

/-- Collaborators that never fail, with processors behind addresses. -/
def Collaborators.reliable (endpoints : List Endpoint) (scan : Uuid → Except ScanFailure ScanStatus)
    (clock : Nat → Timestamp) : Collaborators Endpoint where
  registry := .ofList (endpoints.map fun e => (e.id, e))
  scan
  clock
  saveFault _ := none
  findFault _ := none

namespace Service

/-- What is asked of a service. An execution comes with the way in which its processor is reached. -/
inductive Call where
  | initiate (documentId : Uuid) (processorIds : List String) (again : Bool)
  | execute (documentId : Uuid) (processorId : String) (transport : Http.Transport)

/-- An execution with processors behind addresses. -/
def executeOver (c : Collaborators Endpoint) (transport : Http.Transport) :
    Uuid → String → Attempt ProcessingFailure Row :=
  execute c fun endpoint documentId => endpoint.process transport documentId

/-- The service after a call. -/
def perform (c : Collaborators Endpoint) (s : Service) : Call → Service
  | .initiate documentId processorIds again => (initiate c documentId processorIds again s).2
  | .execute documentId processorId transport =>
      (executeOver c transport documentId processorId s).2

/-- The service after some calls, one after the other. -/
def performAll (c : Collaborators Endpoint) (s : Service) (calls : List Call) : Service :=
  calls.foldl (perform c) s

/-- Whether a service is new: no row was saved, and the receivers of its topics stay. -/
structure Fresh (s : Service) : Prop where
  store : s.store.Holds []
  saved : s.saved = []
  endless : ∀ channel, (s.topics.get channel).lifetime = none

/-- Whether a row is a result, or else dated by one of so many readings of the clock. -/
def Dated (c : Collaborators Endpoint) (readings : Nat) (row : Row) : Prop :=
  row.status = .complete ∨ ∃ reading < readings, row.timestamp = c.clock reading

/-- What holds of a service at all times. -/
structure Intact (c : Collaborators Endpoint) (s : Service) : Prop where
  holds : s.store.Holds s.saved
  endless : ∀ channel, (s.topics.get channel).lifetime = none
  sound : ∀ row ∈ s.saved, row.Sound
  dated : ∀ row ∈ s.saved, Dated c s.readings row

variable {c : Collaborators Endpoint} {s t : Service}

theorem Fresh.intact (fresh : s.Fresh) : Intact c s where
  holds := by rw [fresh.saved]; exact fresh.store
  endless := fresh.endless
  sound := by simp [fresh.saved]
  dated := by simp [fresh.saved]

/-- An effect whose rows are sound and dated preserves the invariant. -/
theorem Intact.leads {e : Effect} (intact : Intact c s) (leads : e.Leads s t)
    (sound : ∀ row ∈ e.rows, row.Sound) (dated : ∀ row ∈ e.rows, Dated c t.readings row) :
    Intact c t where
  holds := by
    rw [leads.saved]
    exact holds_saveAll intact.holds leads.store
  endless channel := by
    have sent := leads.topics channel
    rw [Topic.sendAll_of_endless (intact.endless channel)] at sent
    rw [← Option.some.inj sent]
    exact intact.endless channel
  sound row member := by
    rw [leads.saved] at member
    rcases List.mem_append.mp member with old | new
    · exact intact.sound row old
    · exact sound row new
  dated row member := by
    rw [leads.saved] at member
    rcases List.mem_append.mp member with old | new
    · rcases intact.dated row old with complete | ⟨reading, less, same⟩
      · exact .inl complete
      · exact .inr ⟨reading, by rw [leads.readings]; omega, same⟩
    · exact dated row new

variable {endpoints : List Endpoint} {scan : Uuid → Except ScanFailure ScanStatus}
  {clock : Nat → Timestamp}

theorem Intact.initiate (intact : Intact c s) (documentId : Uuid)
    (processorIds : List String) (again : Bool) :
    Intact c (Service.initiate c documentId processorIds again s).2 := by
  obtain ⟨outcome, effect, t, ends, leads, within⟩ := initiate_adds c documentId processorIds again s
  rw [ends]
  refine intact.leads leads (fun row member => ?_) (fun row member => ?_)
  · obtain ⟨processorId, reading, -, -, same⟩ := within.rows row member
    rw [same]
    exact Row.sound_pending ..
  · obtain ⟨processorId, reading, -, less, same⟩ := within.rows row member
    rw [same]
    exact .inr ⟨reading, leads.readings ▸ less, rfl⟩

/-- What the endpoint of a processor says of a document. -/
def heard (endpoints : List Endpoint) (transport : Http.Transport) :
    Uuid → String → Option (Except ProcessorFailure Row) :=
  said (endpoints.map fun e => (e.id, e)) fun e documentId => e.process transport documentId

theorem isApt_heard (endpoints : List Endpoint) (transport : Http.Transport) (documentId : Uuid)
    (processorId : String) : IsApt documentId (heard endpoints transport documentId processorId) := by
  unfold heard said
  cases (endpoints.map fun e => (e.id, e)).reverse.lookup processorId with
  | none => exact isApt_none
  | some e => exact isApt_answer e _

theorem executeOver_course (endpoints : List Endpoint) (scan : Uuid → Except ScanFailure ScanStatus)
    (clock : Nat → Timestamp) (transport : Http.Transport) (documentId : Uuid) (processorId : String)
    (s : Service) :
    ∃ outcome effect t,
      executeOver (.reliable endpoints scan clock) transport documentId processorId s = (outcome, t) ∧
      Course (.reliable endpoints scan clock) documentId processorId s
        (.of (heard endpoints transport documentId processorId)) outcome effect ∧
      effect.Leads s t := by
  obtain ⟨outcome, effect, t, ends, course, leads⟩ :=
    pursues_execute (.reliable endpoints scan clock) (endpoints.map fun e => (e.id, e))
      (fun e documentId => e.process transport documentId) documentId processorId s
  exact ⟨outcome, effect, t, ends, course, leads⟩

theorem Intact.course {said : Option (Except ProcessorFailure Row)} {documentId : Uuid}
    {processorId : String} {outcome : Except ProcessingFailure Row} {effect : Effect}
    (intact : Intact c s) (apt : IsApt documentId said)
    (course : Course c documentId processorId s (.of said) outcome effect) (leads : effect.Leads s t) :
    Intact c t := by
  refine intact.leads leads (fun row member => ?_) (fun row member => ?_)
  · exact (course.ends apt row member).1.sound
  · obtain ⟨ends, complete | once⟩ := course.ends apt row member
    · exact .inl complete
    · cases ends with
      | result complete => exact .inl complete
      | refusal => exact .inr ⟨s.readings, by rw [leads.readings]; omega, rfl⟩

/-- A call preserves the invariant. -/
theorem Intact.perform {s : Service} (intact : Intact (.reliable endpoints scan clock) s) (call : Call) :
    Intact (.reliable endpoints scan clock) (perform (.reliable endpoints scan clock) s call) := by
  cases call with
  | initiate documentId processorIds again => exact intact.initiate documentId processorIds again
  | execute documentId processorId transport =>
      obtain ⟨outcome, effect, t, ends, course, leads⟩ :=
        executeOver_course endpoints scan clock transport documentId processorId s
      rw [Service.perform, ends]
      exact intact.course (isApt_heard _ _ _ _) course leads

theorem Intact.performAll {s : Service} (intact : Intact (.reliable endpoints scan clock) s) (calls : List Call) :
    Intact (.reliable endpoints scan clock) (performAll (.reliable endpoints scan clock) s calls) := by
  induction calls generalizing s with
  | nil => exact intact
  | cons call calls ih => exact ih (intact.perform call)

/-- Whether the rows of a document can be found, and what the store gives back of one of them is the last of
its processor. -/
def IsLatest (c : Collaborators Endpoint) (s : Service) (row : Row) : Prop :=
  ∃ found back, (results c row.documentId s).1 = .ok found ∧ s.store.givenBack row = .ok back ∧
    (found.filter (·.processorId == row.processorId)).getLast? = some back

theorem results_eq_ok {found : List Row} (documentId : Uuid) (intact : Intact c s)
    (answers : c.findFault s.finds = none) :
    (results c documentId s).1 = .ok found ↔
      ∃ backs, (s.saved.filter (·.documentId == documentId)).mapM s.store.givenBack = .ok backs ∧
        Row.sortByTime backs = found := by
  rw [results_of_holds intact.holds answers documentId, map_eq_ok]
  simp only [mapError_eq_ok]

/-- The row that was saved last is the latest of its pair just if all rows of its document can be read back
and none of the pair is later. -/
theorem isLatest_iff {before : List Row} {row : Row} (intact : Intact c s)
    (answers : c.findFault s.finds = none) (last : s.saved = before ++ [row]) :
    IsLatest c s row ↔
      (∀ other ∈ s.saved, other.documentId = row.documentId →
        ∃ back, s.store.givenBack other = .ok back) ∧
      ∀ other ∈ before, other.documentId = row.documentId → other.processorId = row.processorId →
        other.timestamp.le row.timestamp := by
  have member : row ∈ s.saved := by rw [last]; exact List.mem_append_right _ (List.mem_singleton_self row)
  have sound (other : Row) (h : other ∈ before) : other.Sound :=
    intact.sound other (by rw [last]; exact List.mem_append_left _ h)
  have rows : s.saved.filter (·.documentId == row.documentId) =
      before.filter (·.documentId == row.documentId) ++ [row] := by
    rw [last, List.filter_append]
    simp
  -- Rows that are read back are compared as the rows that were saved.
  have latest {front : List Row} {back : Row}
      (fronts : (before.filter (·.documentId == row.documentId)).mapM s.store.givenBack = .ok front)
      (recalled : s.store.givenBack row = .ok back) :
      ((Row.sortByTime (front ++ [back])).filter (·.processorId == row.processorId)).getLast? =
          some back ↔
        ∀ other ∈ before, other.documentId = row.documentId → other.processorId = row.processorId →
          other.timestamp.le row.timestamp := by
    obtain ⟨-, processorId, -, time⟩ := Store.givenBack_ok (intact.sound row member).legible recalled
    obtain ⟨forth, backward⟩ := mem_of_mapM_eq_ok fronts
    rw [Row.getLast?_sortByTime_iff (by rw [processorId, beq_self_eq_true]), time]
    constructor
    · intro all other saved document processor
      obtain ⟨read, found, same⟩ := forth other (List.mem_filter.mpr ⟨saved, by simpa using document⟩)
      obtain ⟨-, processorId, -, time⟩ := Store.givenBack_ok (sound other saved).legible same
      rw [← time]
      exact all read found (by simp [processorId, processor])
    · intro all read found processor
      obtain ⟨other, chosen, same⟩ := backward read found
      obtain ⟨saved, document⟩ := List.mem_filter.mp chosen
      obtain ⟨-, processorId, -, time⟩ := Store.givenBack_ok (sound other saved).legible same
      rw [time]
      exact all other saved (by simpa using document) (by simpa [processorId] using processor)
  have readable : (∀ other ∈ s.saved, other.documentId = row.documentId →
      ∃ back, s.store.givenBack other = .ok back) ↔
      ∃ backs, (s.saved.filter (·.documentId == row.documentId)).mapM s.store.givenBack = .ok backs := by
    rw [exists_mapM_eq_ok]
    simp
  simp only [IsLatest, results_eq_ok row.documentId intact answers, readable, rows, mapM_append_eq_ok]
  constructor
  · rintro ⟨found, back, ⟨backs, ⟨front, back', fronts, recalled', rfl⟩, rfl⟩, recalled, final⟩
    rw [recalled] at recalled'
    cases recalled'
    exact ⟨⟨_, front, back, fronts, recalled, rfl⟩, (latest fronts recalled).mp final⟩
  · rintro ⟨⟨backs, front, back, fronts, recalled, rfl⟩, all⟩
    exact ⟨_, back, ⟨_, ⟨front, back, fronts, recalled, rfl⟩, rfl⟩, recalled,
      (latest fronts recalled).mpr all⟩

theorem clock_le (forward : ∀ n, (clock n).le (clock (n + 1)) = true) {m n : Nat} (h : m ≤ n) :
    (clock m).le (clock n) = true := by
  induction h with
  | refl => exact Timestamp.le_refl _
  | step _ ih => exact Timestamp.le_trans ih (forward _)

/-- An execution that is not to be tried again adds one row, terminal and of its pair. That row is the latest
of its pair just if the rows of its document can be read back, and no result interferes by its date: none of
those before it is later than it, nor is any row later than it if it is a result itself. -/
theorem latest_iff (endpoints : List Endpoint) (scan : Uuid → Except ScanFailure ScanStatus)
    (clock : Nat → Timestamp) (forward : ∀ n, (clock n).le (clock (n + 1)) = true) (start : Service)
    (fresh : start.Fresh) (calls : List Call) (transport : Http.Transport) (documentId : Uuid) (processorId : String) :
    let c := Collaborators.reliable endpoints scan clock
    let s := performAll c start calls
    let run := executeOver c transport documentId processorId s
    IsFinal run.1 →
      ∃ row, run.2.saved = s.saved ++ [row] ∧ row.documentId = documentId ∧
        row.processorId = processorId ∧ row.status.isTerminal = true ∧
        (run.1 = .ok row ∨ row.status = .unprocessable) ∧
        (IsLatest c run.2 row ↔
          (∀ other ∈ run.2.saved, other.documentId = documentId →
            ∃ back, run.2.store.givenBack other = .ok back) ∧
          ∀ other ∈ s.saved, other.documentId = documentId → other.processorId = processorId →
            (row.status = .complete ∨ other.status = .complete) →
            other.timestamp.le row.timestamp = true) := by
  intro c s run final
  have intact : Intact c s := (Fresh.intact fresh).performAll calls
  obtain ⟨outcome, effect, t, ran, course, leads⟩ :=
    executeOver_course endpoints scan clock transport documentId processorId s
  have apt := isApt_heard endpoints transport documentId processorId
  have intact' : Intact c t := intact.course apt course leads
  simp only [run, c, ran] at final ⊢
  obtain ⟨row, only, result⟩ := course.rows_of_isFinal final
  obtain ⟨ends, -⟩ := course.ends apt row (by rw [only]; exact List.mem_singleton_self row)
  obtain ⟨document, processor⟩ := ends.pair
  have saved : t.saved = s.saved ++ [row] := by rw [leads.saved, only]
  refine ⟨row, saved, document, processor, ends.isTerminal, result, ?_⟩
  rw [isLatest_iff intact' rfl saved, document, processor]
  refine and_congr_right fun _ => ⟨fun all other old d p _ => all other old d p, ?_⟩
  intro all other old d p
  -- Rows that the service dated are in the order of its clock.
  rcases intact.dated other old with complete | ⟨reading, less, dated⟩
  · exact all other old d p (.inr complete)
  · cases ends with
    | result complete => exact all other old d p (.inl complete)
    | refusal =>
        rw [dated]
        exact clock_le forward (Nat.le_of_lt less)

/-- A clock that shows one second more at each reading, until the first day of 2026 is over. -/
def dayClock (reading : Nat) : Timestamp :=
  ⟨⟨2026, 1, 1⟩, .clip reading, 0⟩

theorem dayClock_le (n : Nat) : (dayClock n).le (dayClock (n + 1)) = true := by
  rw [Timestamp.le_iff, List.le]
  simp only [dayClock, Timestamp.key, List.cons_lt_cons_iff]
  simp
  omega

/-- Of two records that there is no processor the second is the latest row. -/
theorem latest_unknown_processor :
    let c := Collaborators.reliable [] (fun _ => .ok .ready) dayClock
    let s := performAll c { store := .empty } [.execute ⟨1⟩ "pages" fun _ => .unreachable]
    let run := executeOver c (fun _ => .unreachable) ⟨1⟩ "pages" s
    ∃ row, run.2.saved = s.saved ++ [row] ∧ IsLatest c run.2 row := by
  intro c s run
  have fresh : Fresh { store := .empty } := ⟨.memory [], rfl, fun channel => by cases channel <;> rfl⟩
  obtain ⟨row, saved, -, -, -, -, latest⟩ :=
    latest_iff [] (fun _ => .ok .ready) dayClock dayClock_le _ fresh
      [.execute ⟨1⟩ "pages" fun _ => .unreachable] (fun _ => .unreachable) ⟨1⟩ "pages" (.inr ⟨_, rfl⟩)
  refine ⟨row, saved, latest.mpr ⟨fun other _ _ => ⟨other, rfl⟩, ?_⟩⟩
  have rows : [Row.unprocessable ⟨1⟩ "pages" "processor not found" (dayClock 0),
      .unprocessable ⟨1⟩ "pages" "processor not found" (dayClock 1)] =
      [Row.unprocessable ⟨1⟩ "pages" "processor not found" (dayClock 0)] ++ [row] := saved
  cases rows
  intro other member _ _ results
  obtain rfl := List.mem_singleton.mp member
  simp [Row.unprocessable] at results

/-- The answer of a processor that dates its result to the year before. -/
def earlyReply : Http.Response where
  status := 200
  body := (Row.complete ⟨1⟩ "pages" .empty ⟨⟨2025, 12, 31⟩, 0, 0⟩).text.toList.map fun c =>
    .ofNat c.toNat
  complete := true

theorem readAnswer_earlyReply : ∃ row, Endpoint.readAnswer ⟨1⟩ earlyReply = .ok row ∧
    row.status = .complete ∧ row.timestamp = ⟨⟨2025, 12, 31⟩, 0, 0⟩ := by
  have known : (Endpoint.readAnswer ⟨1⟩ earlyReply).toOption.map
      (fun row => (row.status, row.timestamp)) =
        some (.complete, ⟨⟨2025, 12, 31⟩, 0, 0⟩) := by
    decide +kernel
  cases read : Endpoint.readAnswer ⟨1⟩ earlyReply with
  | error failure =>
      rw [read] at known
      cases known
  | ok row =>
      rw [read] at known
      exact ⟨row, rfl, congrArg Prod.fst (Option.some.inj known),
        congrArg Prod.snd (Option.some.inj known)⟩

/-- A result that is dated before its request is not the latest row. -/
theorem early_result_not_latest :
    let c := Collaborators.reliable [⟨"pages", "http://127.0.0.1/pages"⟩] (fun _ => .ok .ready) dayClock
    let s := performAll c { store := .empty } [.initiate ⟨1⟩ ["pages"] false]
    let run := executeOver c (fun _ => .answered earlyReply) ⟨1⟩ "pages" s
    ∃ row, run.1 = .ok row ∧ run.2.saved = s.saved ++ [row] ∧ ¬IsLatest c run.2 row := by
  intro c s run
  have fresh : Fresh { store := .empty } := ⟨.memory [], rfl, fun channel => by cases channel <;> rfl⟩
  have intact : Intact c s := fresh.intact.performAll _
  obtain ⟨answer, read, complete, early⟩ := readAnswer_earlyReply
  have answered : heard [⟨"pages", "http://127.0.0.1/pages"⟩] (fun _ => .answered earlyReply) ⟨1⟩
      "pages" = some (.ok answer) := congrArg some read
  have apt : IsApt ⟨1⟩ (some (.ok answer)) := answered ▸ isApt_heard _ _ _ _
  obtain ⟨outcome, effect, t, ends, course, leads⟩ :=
    executeOver_course [⟨"pages", "http://127.0.0.1/pages"⟩] (fun _ => .ok .ready) dayClock
      (fun _ => .answered earlyReply) ⟨1⟩ "pages" s
  rw [answered] at course
  have intact' : Intact c t := intact.course apt course leads
  have requested : s.saved.map (fun row => (row.documentId, row.processorId, row.timestamp)) =
      [(⟨1⟩, "pages", dayClock 0)] := by
    decide +kernel
  simp only [run, c, ends]
  simp only [Finding.of, complete] at course
  cases course with
  | announced stamped =>
      rename_i row taken opened
      refine ⟨row, rfl, leads.saved, ?_⟩
      rw [isLatest_iff intact' rfl leads.saved]
      rintro ⟨-, latest⟩
      obtain ⟨other, member, same⟩ : ∃ other ∈ s.saved,
          (other.documentId, other.processorId, other.timestamp) = (⟨1⟩, "pages", dayClock 0) :=
        List.mem_map.mp (requested ▸ List.mem_singleton_self _)
      simp only [Prod.mk.injEq] at same
      obtain ⟨document, processor, time⟩ := same
      have notAfter := latest other member (by rw [document, stamped]; exact (apt answer rfl).1.symm)
        (by rw [processor, stamped])
      rw [time, stamped, early] at notAfter
      exact absurd notAfter (by decide)
  | unannounced stamped taken closed =>
      simp [Topic.isOpen, intact.endless] at closed
  | unsaved stamped refused =>
      obtain ⟨store, saved, -⟩ := intact.holds.save _
      exact absurd ⟨rfl, store, saved⟩ refused

end Service

end Dossier
