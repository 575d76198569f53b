import Dossier.Proofs.Consumer.Posting

/-! # What the handling of a request leaves alone

Who handles a delivery of a request posts no requests, and puts off nothing but that delivery, if it may be sent again.
Main statements: `deals_start` and `deals_finish`.
-/

namespace Dossier

variable {π ε α : Type}

/-- Whether a service has come of another with the topic of requests and the agenda as they were. -/
structure Service.Still (s t : Service) : Prop where
  requests : t.topics.requests = s.topics.requests
  agenda : t.agenda = s.agenda

namespace Service

variable {s t u : Service}

theorem Still.trans (first : Still s t) (second : Still t u) : Still s u :=
  ⟨second.requests.trans first.requests, second.agenda.trans first.agenda⟩

theorem still_of_leads {e : Effect} (leads : e.Leads s t) (quiet : e.sent .requests = []) : Still s t :=
  ⟨leads.untouched quiet, leads.agenda⟩

/-- A deed that posts no requests. -/
theorem Deed.still {deed : Deed π α} (keeps : deed.Keeps fun _ => False) (s : Service) :
    Still s (deed.perform s).2 := by
  cases deed with
  | tell level message fields => exact ⟨rfl, rfl⟩
  | readClock c => exact ⟨rfl, rfl⟩
  | save c row =>
      rcases save_cases c row s with ⟨-, t, saved, leads, -⟩ | ⟨-, failure, t, failed, leads⟩
      · rw [perform, ExceptT.run, saved]
        exact still_of_leads leads rfl
      · rw [perform, ExceptT.run, failed]
        exact still_of_leads leads rfl
  | ask c question =>
      obtain ⟨outcome, asked⟩ := ask_cases c question s
      rw [perform, ExceptT.run, asked]
      exact ⟨rfl, rfl⟩
  | publish channel payload =>
      cases channel with
      | requests =>
          obtain ⟨-, -, none, -⟩ := keeps
          exact none.elim
      | completions | events =>
          rcases publish_cases _ payload s with ⟨-, t, sent, leads⟩ | ⟨-, failed⟩
          · rw [perform, ExceptT.run, sent]
            exact still_of_leads leads rfl
          · rw [perform, ExceptT.run, failed]
            exact ⟨rfl, rfl⟩

theorem Task.still {task : Task π ε α} (keeps : task.Keeps fun _ => False) (s : Service) :
    Still s (task.run s).2 := by
  induction task generalizing s with
  | done outcome => exact ⟨rfl, rfl⟩
  | doing deed rest ih => exact (Deed.still keeps.1 s).trans (ih _ (keeps.2 _) _)

end Service

namespace RequestConsumer

open Service

/-- Whether the handling of a delivery has left alone the topic of requests, and the agenda but for the delivery
itself. -/
structure Deals (q : QueueSettings) (d : Delivery) (s t : Service) : Prop where
  requests : t.topics.requests = s.topics.requests
  agenda : t.agenda = s.agenda ∨ d.attempt < q.maxDeliveries ∧
    ∃ due, t.agenda = s.agenda ++ [⟨due, .requests, d.again⟩]

variable {c : Collaborators π} {q : QueueSettings} {d : Delivery} {s t : Service}

theorem deals_conclude (still : Still s t) (request : Request) (outcome : Except ProcessingFailure Row) :
    Deals q d s (conclude q d request outcome t).2 := by
  by_cases final : IsFinal outcome
  · obtain ⟨entry, same⟩ := conclude_of_isFinal final q d request t
    rw [same]
    exact ⟨still.requests, .inl still.agenda⟩
  · obtain ⟨entry, same⟩ := conclude_of_not_isFinal final q d request t
    rw [same]
    rcases Nat.lt_or_ge d.attempt q.maxDeliveries with few | many
    · rw [putOff_of_lt few]
      exact ⟨still.requests, .inr ⟨few, _, congrArg (· ++ _) still.agenda⟩⟩
    · rw [putOff_of_le many]
      exact ⟨still.requests, .inl still.agenda⟩

theorem deals_finish (c : Collaborators π) (processor : Processor π) (request : Request)
    (answer : Except ProcessorFailure Row) (s : Service) :
    Deals q d s (finish c q d processor request answer s).2 := by
  have still := Task.still (Task.keeps_settle c request.documentId request.processor.id processor answer) s
  rw [Task.run_settle] at still
  exact deals_conclude still request _

/-- The work on a delivery up to the call of a processor; if there is one, nothing has changed yet. -/
theorem deals_start (c : Collaborators π) (s : Service) : Deals q d s (start c q d s).2 := by
  cases read : Request.read d.payload with
  | error fault =>
      obtain ⟨entry, same⟩ := start_of_unread read c q s
      rw [same]
      exact ⟨rfl, .inl rfl⟩
  | ok request =>
      rw [start_of_read read]
      cases c.registry.find? request.processor.id with
      | some processor => exact ⟨rfl, .inl rfl⟩
      | none =>
          have still := Task.still (Task.keeps_refuse c request.documentId request.processor.id) s
          rw [Task.run_refuse] at still
          exact deals_conclude still request _

end RequestConsumer

end Dossier
