import Dossier.Proofs.Consumer.Trace

/-! # Initiations that stop

An initiation may be stopped at any question, scan, message or row, and others may do something in between. Wherever it
stops, it has requested the first of the processors that were not known, each by a message and a row, but for the last
one, whose row may have been refused. Main statement: `Work.runs_initiate`.
-/

namespace Dossier.Service

variable {π : Type} {documentId : Uuid} {processorId : String} {s t : Service} {marks : List Mark}
  {outcome : Except ServiceFailure Unit} {o : Others π} {meanwhile : Service → Service → Prop}

/-- What an initiation can leave behind that requests some processors of a document one after the other, and how it
ends. -/
inductive Leaves (documentId : Uuid) : List String → List Mark → Except ServiceFailure Unit → Prop where
  | all : Leaves documentId [] [] (.ok ())
  | stopped {left : List String} {failure : ServiceFailure} : Leaves documentId left [] (.error failure)
  /-- The request is sent, but its row is refused. -/
  | lost {processorId : String} {left : List String} {now : Timestamp} {failure : ServiceFailure} :
      Leaves documentId (processorId :: left)
        [.sent (.asking documentId processorId), .refused (.pending documentId processorId now)] (.error failure)
  | requested {processorId : String} {left : List String} {now : Timestamp} {marks : List Mark}
      {outcome : Except ServiceFailure Unit} (rest : Leaves documentId left marks outcome) :
      Leaves documentId (processorId :: left)
        (.sent (.asking documentId processorId) :: .saved (.pending documentId processorId now) :: marks) outcome

namespace Leaves

variable {left : List String} (leaves : Leaves documentId left marks outcome) (processorId : String)

include leaves

theorem asks_le : marks.countP (Mark.asks documentId processorId) ≤ left.count processorId := by
  induction leaves with
  | all | stopped => exact Nat.zero_le _
  | lost => simp [List.countP_cons, List.count_cons]
  | requested rest ih => simpa [List.countP_cons, List.count_cons] using ih

/-- Each request but one whose row is refused has its row. -/
theorem asks_le_records : marks.countP (Mark.asks documentId processorId) ≤
    marks.countP (Mark.records documentId processorId) + (Mark.lost documentId processorId marks).toNat := by
  induction leaves with
  | all | stopped => exact Nat.zero_le _
  | @lost other left now failure =>
      by_cases same : other = processorId
      · simp [Mark.lost, same]
      · simp [same]
  | requested rest ih =>
      rw [Mark.lost_requested]
      simp only [List.countP_cons, Mark.asks_asking, Mark.asks_saved, Mark.records_sent, Mark.records_saved,
        Row.isOf_pending, Bool.false_eq_true, if_false]
      omega

theorem asked_of_recorded (recorded : marks.any (Mark.records documentId processorId) = true) :
    marks.any (Mark.asks documentId processorId) = true := by
  induction leaves with
  | all | stopped => cases recorded
  | lost => simp at recorded
  | requested rest ih =>
      simp only [List.any_cons, Mark.asks_asking, Mark.asks_saved, Mark.records_sent, Mark.records_saved,
        Row.isOf_pending, Bool.false_or, Bool.or_eq_true] at recorded ⊢
      exact recorded.imp_right ih

theorem recorded_of_ok (done : outcome = .ok ()) (listed : processorId ∈ left) :
    marks.any (Mark.records documentId processorId) = true := by
  induction leaves with
  | all => cases listed
  | stopped | lost => cases done
  | requested rest ih =>
      simp only [List.any_cons, Mark.records_sent, Mark.records_saved, Row.isOf_pending, Bool.false_or,
        Bool.or_eq_true, beq_iff_eq]
      exact (List.mem_cons.mp listed).imp Eq.symm (ih done)

theorem no_redeliveries : marks.filterMap Mark.redelivery? = [] := by
  induction leaves with
  | all | stopped | lost => rfl
  | requested rest ih => exact ih

end Leaves

namespace Work

variable {c : Collaborators π}

/-- What comes of one request. -/
theorem runs_request
    (runs : (ofTask (Task.request c documentId processorId)).Runs o meanwhile s marks outcome t) :
    (marks = [] ∧ ∃ failure, outcome = .error failure) ∨
    (∃ now failure, marks = [.sent (.asking documentId processorId),
      .refused (.pending documentId processorId now)] ∧ outcome = .error failure) ∨
    ∃ now, marks = [.sent (.asking documentId processorId), .saved (.pending documentId processorId now)] ∧
      outcome = .ok () := by
  rcases runs_task_bind runs with ⟨failure, rfl, closed⟩ | ⟨first, _, u, later, published, read, rfl⟩
  · obtain ⟨before, same, closed⟩ := runs_task_explain closed
    rcases runs_publish closed with ⟨rfl, rfl⟩ | ⟨rfl, rfl⟩
    · cases same
    · exact .inl ⟨rfl, failure, rfl⟩
  · obtain ⟨before, same, published⟩ := runs_task_explain published
    have sent : first = [.sent (.asking documentId processorId)] := by
      rcases runs_publish published with ⟨-, sent⟩ | ⟨rfl, -⟩
      · exact sent
      · cases same
    rcases runs_task_bind read with ⟨failure, rfl, unread⟩ | ⟨none, now, v, rest, clock, saved, rfl⟩
    · obtain ⟨-, now, same⟩ := runs_readClock unread
      cases same
    · obtain ⟨rfl, -⟩ := runs_readClock clock
      rcases runs_task_bind saved with ⟨failure, rfl, refused⟩ | ⟨row, _, w, none, taken, told, rfl⟩
      · rcases runs_save refused with ⟨same, -⟩ | ⟨-, -, rfl⟩
        · cases same
        · exact .inr (.inl ⟨now, failure, by rw [sent]; rfl, rfl⟩)
      · obtain ⟨rfl, rfl⟩ := runs_tell told
        rcases runs_save taken with ⟨-, rfl⟩ | ⟨failure, same, -⟩
        · exact .inr (.inr ⟨now, by rw [sent]; rfl, rfl⟩)
        · cases same

theorem runs_enqueue {left : List String}
    (runs : (ofTask (Task.enqueue c documentId left)).Runs o meanwhile s marks outcome t) :
    Leaves documentId left marks outcome := by
  induction left generalizing s marks with
  | nil =>
      obtain ⟨rfl, rfl, -⟩ := runs
      exact .all
  | cons processorId left ih =>
      rcases runs_task_bind runs with ⟨failure, rfl, failed⟩ | ⟨first, _, u, later, requested, others, rfl⟩
      · rcases runs_request failed with ⟨rfl, -⟩ | ⟨now, -, rfl, -⟩ | ⟨now, -, same⟩
        · exact .stopped
        · exact .lost
        · cases same
      · rcases runs_request requested with ⟨-, failure, same⟩ | ⟨-, failure, -, same⟩ | ⟨now, marked, -⟩
        · cases same
        · cases same
        · rw [marked]
          exact .requested (ih others)

/-- What is done once something was told. -/
theorem runs_told {level : LogLevel} {message : String} {fields : List (String × String)}
    {next : Unit → Task π ServiceFailure Unit}
    (runs : (ofTask ((Task.tell level message fields) >>= next)).Runs o meanwhile s marks outcome t) :
    ∃ u, (ofTask (next ())).Runs o meanwhile u marks outcome t := by
  rcases runs_task_bind runs with ⟨failure, rfl, untold⟩ | ⟨first, _, u, later, told, rest, rfl⟩
  · obtain ⟨-, same⟩ := runs_tell untold
    cases same
  · obtain ⟨rfl, -⟩ := runs_tell told
    exact ⟨u, rest⟩

theorem runs_grant {left : List String} {answer : Except ScanFailure ScanStatus}
    (runs : (ofTask (Task.grant c documentId left answer)).Runs o meanwhile s marks outcome t) :
    Leaves documentId left marks outcome := by
  cases answer with
  | error failure =>
      obtain ⟨rfl, rfl, -⟩ := runs
      exact .stopped
  | ok status =>
      cases status with
      | failedScan =>
          obtain ⟨u, rfl, rfl, -⟩ := runs_told runs
          exact .stopped
      | ready | awaitingScan =>
          obtain ⟨u, enqueued⟩ := runs_told runs
          exact runs_enqueue enqueued

theorem runs_clear {left : List String} (runs : (clear c documentId left).Runs o meanwhile s marks outcome t) :
    Leaves documentId left marks outcome := by
  by_cases none : left = []
  · subst none
    obtain ⟨rfl, rfl⟩ := runs_tell runs
    exact .all
  · rw [clear_of_ne_nil c documentId none] at runs
    obtain ⟨_, answer, u, later, ⟨_, _, -, rfl, rfl, -, -⟩, granted, rfl⟩ := runs_bind.mp runs
    simp only [Act.marks_look, List.nil_append]
    exact runs_grant granted

theorem runs_tellProcessed {ε : Type} {existing : List Row} {outcome : Except ε Unit}
    (runs : (ofTask (Task.tellProcessed documentId existing : Task π ε Unit)).Runs o meanwhile s marks outcome t) :
    marks = [] := by
  unfold Task.tellProcessed Procedure.tellProcessed at runs
  split at runs
  · exact runs.1
  · exact (runs_tell runs).1

/-- The processors that are left are those that are not known, whatever others do before the store is asked. -/
theorem runs_filter {processorIds : List String} {chosen : Except ServiceFailure (List String)}
    (runs : (ofTask (Task.filter c documentId processorIds false)).Runs o (Spares documentId) s marks chosen t) :
    marks = [] ∧ ∀ left, chosen = .ok left →
      left = processorIds.filter fun id => !s.store.knows documentId id := by
  rcases runs_task_bind runs with ⟨failure, rfl, unanswered⟩ | ⟨none, existing, u, later, asked, rest, rfl⟩
  · obtain ⟨rfl, -⟩ := runs_ask unanswered
    exact ⟨rfl, fun left same => nomatch same⟩
  · obtain ⟨rfl, v, before, found⟩ := runs_ask asked
    have left := Store.filter_findFrom (found existing rfl)
    simp only [before.knows] at left
    rcases runs_task_bind rest with ⟨failure, rfl, untold⟩ | ⟨none, _, w, later, told, ended, rfl⟩
    · exact ⟨runs_tellProcessed untold, fun left same => nomatch same⟩
    · obtain rfl := runs_tellProcessed told
      obtain ⟨rfl, rfl, -⟩ := ended
      refine ⟨rfl, fun chosen same => ?_⟩
      cases same
      exact left

/-- An initiation requests processors that are not known, as often as they are listed. -/
theorem runs_initiate {processorIds : List String}
    (runs : (initiate c documentId processorIds false).Runs o (Spares documentId) s marks outcome t) :
    Leaves documentId (processorIds.filter fun id => !s.store.knows documentId id) marks outcome := by
  rw [initiate_eq] at runs
  obtain ⟨first, chosen, u, later, filtered, rest, rfl⟩ := runs_bind.mp runs
  obtain ⟨rfl, left⟩ := runs_filter filtered
  cases chosen with
  | error failure =>
      obtain ⟨rfl, rfl, -⟩ := rest
      exact .stopped
  | ok chosen =>
      rw [← left chosen rfl]
      exact runs_clear rest

end Work

end Dossier.Service
