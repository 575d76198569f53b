import Dossier.Proofs.Consumer.Work
import Dossier.Proofs.Service.Extent

/-! # What work leaves behind

Work is done act by act, and others may act in between. What an act leaves behind is written down: the requests that
are sent, the rows that are saved or refused, and the deliveries that are put off. While others leave the rows of a
document alone, the rows of it that are written down are all that becomes known. Main statements: `Work.runs_run` and
`Work.Runs.learns`.
-/

namespace Dossier

variable {documentId : Uuid} {processorId : String}

@[simp]
theorem Row.isOf_pending (documentId : Uuid) (processorId other : String) (now : Timestamp) :
    (pending documentId other now).isOf documentId processorId = (other == processorId) := by
  simp [isOf, pending]

theorem Store.knows_saveAll {s after : Store} {rows : List Row} (saved : s.saveAll rows = .ok after) :
    after.knows documentId processorId =
      (s.knows documentId processorId || rows.any (Row.isOf documentId processorId)) := by
  induction rows generalizing s with
  | nil =>
      cases saved
      simp
  | cons row rest ih =>
      rw [saveAll, List.foldlM_cons, bind_eq_ok] at saved
      obtain ⟨next, first, others⟩ := saved
      rw [ih others, knows_save first, List.any_cons, Bool.or_assoc]

/-- What an act leaves behind. -/
inductive Mark where
  /-- A request is sent. -/
  | sent (d : Delivery)
  | saved (row : Row)
  /-- A row is not taken by the store. -/
  | refused (row : Row)
  /-- A delivery is put off. -/
  | putOff (r : Redelivery)

namespace Mark

/-- Whether a mark is that of a request for a processor on a document. -/
def asks (documentId : Uuid) (processorId : String) : Mark → Bool
  | .sent d => match Request.read d.payload with
    | .ok request => request.documentId == documentId && request.processor.id == processorId
    | .error _ => false
  | .saved _ | .refused _ | .putOff _ => false

/-- Whether a mark is that of a row of a document and a processor which is saved. -/
def records (documentId : Uuid) (processorId : String) : Mark → Bool
  | .saved row => row.isOf documentId processorId
  | .sent _ | .refused _ | .putOff _ => false

/-- Whether a mark is that of a row of a document and a processor which is refused. -/
def refuses (documentId : Uuid) (processorId : String) : Mark → Bool
  | .refused row => row.isOf documentId processorId
  | .sent _ | .saved _ | .putOff _ => false

def redelivery? : Mark → Option Redelivery
  | .putOff r => some r
  | .sent _ | .saved _ | .refused _ => none

section

variable (documentId : Uuid) (processorId : String) (d : Delivery) (row : Row) (r : Redelivery)

@[simp] theorem asks_saved : (saved row).asks documentId processorId = false := rfl

@[simp] theorem asks_refused : (refused row).asks documentId processorId = false := rfl

@[simp] theorem records_saved : (saved row).records documentId processorId = row.isOf documentId processorId := rfl

@[simp] theorem records_sent : (sent d).records documentId processorId = false := rfl

@[simp] theorem records_refused : (refused row).records documentId processorId = false := rfl

@[simp] theorem records_putOff : (putOff r).records documentId processorId = false := rfl

@[simp] theorem refuses_saved : (saved row).refuses documentId processorId = false := rfl

@[simp] theorem refuses_refused : (refused row).refuses documentId processorId = row.isOf documentId processorId := rfl

@[simp]
theorem asks_asking (other : String) : (sent (.asking documentId other)).asks documentId processorId =
    (other == processorId) := by
  simp [asks, Delivery.read_asking]

end

/-- Whether a row of a document and a processor is refused directly after the request for it is sent. -/
def lost (documentId : Uuid) (processorId : String) : List Mark → Bool
  | a :: b :: rest => (a.asks documentId processorId && b.refuses documentId processorId) ||
      lost documentId processorId (b :: rest)
  | [_] | [] => false

theorem lost_append {marks : List Mark} (more : List Mark) (is : lost documentId processorId marks = true) :
    lost documentId processorId (marks ++ more) = true := by
  induction marks with
  | nil => cases is
  | cons a marks ih =>
      cases marks with
      | nil => cases is
      | cons b rest =>
          simp only [lost, List.cons_append, Bool.or_eq_true] at is ih ⊢
          exact is.imp_right ih

theorem lost_requested (d : Delivery) (row : Row) (marks : List Mark) :
    lost documentId processorId (.sent d :: .saved row :: marks) = lost documentId processorId marks := by
  cases marks with
  | nil => simp [lost]
  | cons b rest => simp [lost]

/-- What is new at a service. -/
def since (s t : Service) : List Mark :=
  (t.topics.requests.sent.drop s.topics.requests.sent.length).map .sent ++
    (t.saved.drop s.saved.length).map .saved ++ (t.agenda.drop s.agenda.length).map .putOff

theorem since_of_leads {e : Effect} {s t : Service} (leads : e.Leads s t) :
    since s t = e.requests.map .sent ++ e.rows.map .saved := by
  have sent : t.topics.requests.sent = s.topics.requests.sent ++ e.requests :=
    Topic.sent_of_sendAll (leads.topics .requests)
  rw [since, sent, leads.saved, leads.agenda]
  simp

end Mark

namespace Service

variable {π ε ε' α β : Type}

/-- The rows that a deed is refused to save, by what it gives back. -/
def Deed.refusals : Deed π α → α → List Mark
  | .save _ row, .error _ => [.refused row]
  | .save _ _, .ok _ => []
  | .tell _ _ _, _ | .readClock _, _ | .ask _ _, _ | .publish _ _, _ => []

namespace Act

def refusals : Act π α → α → List Mark
  | .deed single, a => single.refusals a
  | .look _, _ | .call _ _, _ | .putOff _ _ _ _, _ => []

/-- What an act leaves behind. -/
def marks (o : Others π) (act : Act π α) (s : Service) : List Mark :=
  Mark.since s (act.perform o s).2 ++ act.refusals (act.perform o s).1

end Act

/-- Whether of a document just those processors have become known whose rows were saved. -/
def Learns (documentId : Uuid) (s : Service) (marks : List Mark) (t : Service) : Prop :=
  ∀ processorId, t.store.knows documentId processorId =
    (s.store.knows documentId processorId || marks.any (Mark.records documentId processorId))

theorem Learns.trans {s t u : Service} {marks more : List Mark} (first : Learns documentId s marks t)
    (second : Learns documentId t more u) : Learns documentId s (marks ++ more) u := by
  intro processorId
  rw [second, first, List.any_append, Bool.or_assoc]

theorem Act.marks_of_leads {deed : Deed π α} {s : Service} {e : Effect} (leads : e.Leads s (deed.perform s).2)
    (o : Others π) : (Act.deed deed).marks o s =
      e.requests.map .sent ++ e.rows.map .saved ++ deed.refusals (deed.perform s).1 :=
  congrArg (· ++ _) (Mark.since_of_leads leads)

theorem Act.marks_of_ends {deed : Deed π α} {s t : Service} {a : α} {e : Effect} (ends : deed.perform s = (a, t))
    (leads : e.Leads s t) (o : Others π) : (Act.deed deed).marks o s =
      e.requests.map .sent ++ e.rows.map .saved ++ deed.refusals a := by
  have marked : (Act.deed deed).marks o s = _ := marks_of_leads (by rw [ends]; exact leads) o
  rwa [ends] at marked

theorem Deed.any_refusals (deed : Deed π α) (a : α) (documentId : Uuid) (processorId : String) :
    (deed.refusals a).any (Mark.records documentId processorId) = false := by
  cases deed with
  | save c row =>
      cases a with
      | ok | error => rfl
  | tell | readClock | ask | publish => rfl

namespace Act

variable (o : Others π) (c : Collaborators π) (s : Service)

@[simp]
theorem marks_tell (level : LogLevel) (message : String) (fields : List (String × String)) :
    (deed (.tell level message fields) : Act π Unit).marks o s = [] :=
  marks_of_leads (e := .nothing) (leads_log _) o

@[simp]
theorem marks_readClock : (deed (.readClock c)).marks o s = [] :=
  marks_of_leads (e := { readings := 1 }) leads_readings o

@[simp]
theorem marks_ask (question : Store → Except DatabaseFailure α) : (deed (.ask c question)).marks o s = [] := by
  obtain ⟨outcome, asked⟩ := ask_cases c question s
  have ends : (Deed.ask c question).perform s = (outcome, { s with finds := s.finds + 1 }) := asked
  exact marks_of_ends ends { Effect.Leads.refl s with } o

@[simp]
theorem marks_look (documentId : Uuid) : (look documentId : Act π _).marks o s = [] := by
  simp [marks, Mark.since, perform, refusals, pure, StateT.pure]

theorem marks_putOff_of_lt {d : Delivery} {limit : Nat} (few : d.attempt < limit) (channel : Channel) (delay : Nat) :
    (putOff channel d delay limit : Act π _).marks o s = [.putOff ⟨s.now + delay, channel, d.again⟩] := by
  simp [marks, perform, putOff_of_lt few, Mark.since, refusals]

theorem marks_putOff_of_le {d : Delivery} {limit : Nat} (many : limit ≤ d.attempt) (channel : Channel) (delay : Nat) :
    (putOff channel d delay limit : Act π _).marks o s = [] := by
  simp [marks, perform, putOff_of_le many, Mark.since, refusals]

/-- A row that is to be saved is saved or refused. -/
theorem marks_save (row : Row) :
    (((Deed.save c row).perform s).1 = .ok () ∧ (deed (.save c row)).marks o s = [.saved row]) ∨
      ∃ failure, ((Deed.save c row).perform s).1 = .error failure ∧
        (deed (.save c row)).marks o s = [.refused row] := by
  rcases save_cases c row s with ⟨-, t, saved, leads, -⟩ | ⟨-, failure, t, failed, leads⟩
  · have ends : (Deed.save c row).perform s = (.ok (), t) := saved
    exact .inl ⟨congrArg Prod.fst ends, marks_of_ends ends leads o⟩
  · have ends : (Deed.save c row).perform s = (.error failure, t) := failed
    exact .inr ⟨failure, congrArg Prod.fst ends, marks_of_ends ends leads o⟩

/-- A request that is to be published is sent, or its topic is closed. -/
theorem marks_publish (payload : String) :
    (((Deed.publish .requests payload : Deed π _).perform s).1 = .ok () ∧
      (deed (.publish .requests payload)).marks o s = [.sent (.first payload)]) ∨
    (((Deed.publish .requests payload : Deed π _).perform s).1 = .error .requests ∧
      (deed (.publish .requests payload)).marks o s = []) := by
  rcases publish_cases .requests payload s with ⟨-, t, sent, leads⟩ | ⟨-, failed⟩
  · have ends : (Deed.publish .requests payload : Deed π _).perform s = (.ok (), t) := sent
    exact .inl ⟨congrArg Prod.fst ends, marks_of_ends ends leads o⟩
  · have ends : (Deed.publish .requests payload : Deed π _).perform s = (.error .requests, s) := failed
    exact .inr ⟨congrArg Prod.fst ends, marks_of_ends ends (.refl s) o⟩

end Act

theorem Act.learns (o : Others π) (act : Act π α) (s : Service) :
    Learns documentId s (act.marks o s) (act.perform o s).2 := by
  intro processorId
  cases act with
  | deed single =>
      obtain ⟨effect, leads⟩ := single.leads s
      have known : (single.perform s).2.store.knows documentId processorId = _ := Store.knows_saveAll leads.store
      have quiet : (effect.requests.map Mark.sent).any (Mark.records documentId processorId) = false := by
        simp [Mark.records]
      rw [marks_of_leads leads, perform, known]
      simp only [List.any_append, quiet, List.any_map, Function.comp_def, Mark.records, Deed.any_refusals,
        Bool.false_or, Bool.or_false]
  | look documentId => simp [perform, pure, StateT.pure]
  | call duty documentId => simp [marks, Mark.since, perform, refusals, pure, StateT.pure]
  | putOff channel d delay limit =>
      rcases Nat.lt_or_ge d.attempt limit with few | many
      · simp [marks_putOff_of_lt o s few, perform, putOff_of_lt few]
      · simp [marks_putOff_of_le o s many, perform, putOff_of_le many]

/-- Whether the rows of a document are left alone. -/
def Spares (documentId : Uuid) (s t : Service) : Prop :=
  t.store.of documentId = s.store.of documentId

theorem Spares.knows {s t : Service} (spares : Spares documentId s t) (processorId : String) :
    t.store.knows documentId processorId = s.store.knows documentId processorId := by
  rw [← Store.knows_of, spares, Store.knows_of]

namespace Work

/-- Whether some work at a service can leave some marks behind and end with what it gives back and another service,
if others do something between its acts. -/
def Runs (o : Others π) (meanwhile : Service → Service → Prop) :
    Work π α → Service → List Mark → α → Service → Prop
  | .done a, s, marks, b, t => marks = [] ∧ a = b ∧ s = t
  | .doing act rest, s, marks, b, t => ∃ u more, meanwhile s u ∧ marks = act.marks o u ++ more ∧
      (rest (act.perform o u).1).Runs o meanwhile (act.perform o u).2 more b t

variable {o : Others π} {meanwhile : Service → Service → Prop} {s t : Service} {marks : List Mark}

/-- Nobody has to do anything in between. -/
theorem runs_run (o : Others π) (idle : ∀ s, meanwhile s s) (work : Work π α) (s : Service) :
    ∃ marks, work.Runs o meanwhile s marks (work.run o s).1 (work.run o s).2 := by
  induction work generalizing s with
  | done a => exact ⟨[], rfl, rfl, rfl⟩
  | doing act rest ih =>
      obtain ⟨more, runs⟩ := ih (act.perform o s).1 (act.perform o s).2
      exact ⟨_, s, more, idle s, rfl, runs⟩

/-- What follows on some work starts where the work has ended; what others do before it counts to it. -/
theorem runs_bind {work : Work π α} {next : α → Work π β} {b : β} :
    (work >>= next).Runs o meanwhile s marks b t ↔ ∃ first a u later, work.Runs o meanwhile s first a u ∧
      (next a).Runs o meanwhile u later b t ∧ marks = first ++ later := by
  induction work generalizing s marks with
  | done a =>
      constructor
      · exact fun runs => ⟨[], a, s, marks, ⟨rfl, rfl, rfl⟩, runs, rfl⟩
      · rintro ⟨_, _, _, later, ⟨rfl, rfl, rfl⟩, runs, rfl⟩
        exact runs
  | doing act rest ih =>
      constructor
      · rintro ⟨u, more, before, rfl, runs⟩
        obtain ⟨first, a, v, later, begun, ended, rfl⟩ := ih _ |>.mp runs
        exact ⟨_, a, v, later, ⟨u, first, before, rfl, begun⟩, ended, (List.append_assoc ..).symm⟩
      · rintro ⟨_, a, v, later, ⟨u, first, before, rfl, begun⟩, ended, rfl⟩
        exact ⟨u, _, before, List.append_assoc .., (ih _).mpr ⟨first, a, v, later, begun, ended, rfl⟩⟩

theorem runs_tell_bind {level : LogLevel} {message : String} {fields : List (String × String)}
    {next : Unit → Work π α} {a : α}
    (runs : (tell level message fields >>= next).Runs o meanwhile s marks a t) :
    ∃ u v, meanwhile s u ∧ v.store = u.store ∧ (next ()).Runs o meanwhile v marks a t := by
  obtain ⟨u, later, before, rfl, rest⟩ := runs
  rw [Act.marks_tell]
  exact ⟨u, (Service.tell level message fields u).2, before, rfl, rest⟩

/-- While others leave the rows of a document alone, just what is saved becomes known. -/
theorem Runs.learns {work : Work π α} {a : α} (runs : work.Runs o (Spares documentId) s marks a t) :
    Learns documentId s marks t := by
  induction work generalizing s marks with
  | done b =>
      obtain ⟨rfl, rfl, rfl⟩ := runs
      intro processorId
      simp
  | doing act rest ih =>
      obtain ⟨u, more, before, rfl, runs⟩ := runs
      have same : Learns documentId s [] u := by
        intro processorId
        rw [before.knows, List.any_nil, Bool.or_false]
      exact (same.trans (act.learns o u)).trans (ih _ runs)

theorem runs_task_bind {task : Task π ε α} {next : α → Task π ε β} {outcome : Except ε β}
    (runs : (ofTask (task >>= next)).Runs o meanwhile s marks outcome t) :
    (∃ failure, outcome = .error failure ∧ (ofTask task).Runs o meanwhile s marks (.error failure) t) ∨
      ∃ first a u later, (ofTask task).Runs o meanwhile s first (.ok a) u ∧
        (ofTask (next a)).Runs o meanwhile u later outcome t ∧ marks = first ++ later := by
  induction task generalizing s marks with
  | done before =>
      cases before with
      | ok a => exact .inr ⟨[], a, s, marks, ⟨rfl, rfl, rfl⟩, runs, rfl⟩
      | error failure =>
          obtain ⟨rfl, rfl, rfl⟩ := runs
          exact .inl ⟨failure, rfl, rfl, rfl, rfl⟩
  | doing deed rest ih =>
      obtain ⟨u, more, before, rfl, runs⟩ := runs
      rcases ih _ runs with ⟨failure, failed, ended⟩ | ⟨first, a, v, later, begun, ended, rfl⟩
      · exact .inl ⟨failure, failed, u, more, before, rfl, ended⟩
      · exact .inr ⟨_, a, v, later, ⟨u, first, before, rfl, begun⟩, ended, (List.append_assoc ..).symm⟩

theorem runs_task_explain {task : Task π ε α} {meaning : ε → ε'} {outcome : Except ε' α}
    (runs : (ofTask (task.explain meaning)).Runs o meanwhile s marks outcome t) :
    ∃ before, outcome = before.mapError meaning ∧ (ofTask task).Runs o meanwhile s marks before t := by
  induction task generalizing s marks with
  | done before =>
      obtain ⟨rfl, rfl, rfl⟩ := runs
      exact ⟨before, rfl, rfl, rfl, rfl⟩
  | doing deed rest ih =>
      obtain ⟨u, more, between, rfl, runs⟩ := runs
      obtain ⟨before, same, ended⟩ := ih _ runs
      exact ⟨before, same, u, more, between, rfl, ended⟩

theorem runs_tell {level : LogLevel} {message : String} {fields : List (String × String)} {outcome : Except ε Unit}
    (runs : (ofTask (Task.tell level message fields : Task π ε Unit)).Runs o meanwhile s marks outcome t) :
    marks = [] ∧ outcome = .ok () := by
  obtain ⟨u, more, -, rfl, rfl, rfl, -⟩ := runs
  exact ⟨by simp, rfl⟩

theorem runs_readClock {c : Collaborators π} {outcome : Except ε Timestamp}
    (runs : (ofTask (Task.readClock c : Task π ε _)).Runs o meanwhile s marks outcome t) :
    marks = [] ∧ ∃ now, outcome = .ok now := by
  obtain ⟨u, more, -, rfl, rfl, rfl, -⟩ := runs
  exact ⟨by simp, _, rfl⟩

theorem runs_ask {c : Collaborators π} {question : Store → Except DatabaseFailure α}
    {outcome : Except ServiceFailure α} (runs : (ofTask (Task.ask c question)).Runs o meanwhile s marks outcome t) :
    marks = [] ∧ ∃ u, meanwhile s u ∧ ∀ a, outcome = .ok a → question u.store = .ok a := by
  obtain ⟨u, more, before, rfl, rfl, same, -⟩ := runs
  refine ⟨by simp, u, before, ?_⟩
  rintro a rfl
  exact found_of_ask (c := c) (Prod.ext same rfl)

theorem runs_save {c : Collaborators π} {row : Row} {outcome : Except ServiceFailure Unit}
    (runs : (ofTask (Task.save c row)).Runs o meanwhile s marks outcome t) :
    (outcome = .ok () ∧ marks = [.saved row]) ∨
      ∃ failure, outcome = .error failure ∧ marks = [.refused row] := by
  obtain ⟨u, more, -, rfl, rfl, rfl, -⟩ := runs
  rw [List.append_nil]
  exact Act.marks_save o c u row

theorem runs_publish {payload : String} {outcome : Except Channel Unit}
    (runs : (ofTask (Task.publish .requests payload : Task π _ _)).Runs o meanwhile s marks outcome t) :
    (outcome = .ok () ∧ marks = [.sent (.first payload)]) ∨ (outcome = .error .requests ∧ marks = []) := by
  obtain ⟨u, more, -, rfl, rfl, rfl, -⟩ := runs
  rw [List.append_nil]
  exact Act.marks_publish o u payload

end Work

end Service

end Dossier
