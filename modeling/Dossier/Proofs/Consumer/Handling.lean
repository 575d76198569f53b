import Dossier.Consumer.Requests
import Dossier.Proofs.Message.Request
import Dossier.Proofs.Service.Endpoint

/-! # Handling a delivery

What the consumer does with a delivery of a request. It saves one row and is done; or it saves none, and the
request is sent again or given up, as its attempts allow. Main statements: `start_settles` for a processor that
is not registered and `finish_settles` for the answer of an endpoint.
-/

namespace Dossier

namespace Service

/-- What is told of a delivery that is given up. -/
def deadLetter (channel : Channel) (d : Delivery) : LogEntry :=
  ⟨.error, "Delivery limit reached, dead-lettering message",
    [("topic", channel.name), ("attempt", Number.decimal d.attempt), ("payload", d.payload)]⟩

theorem putOff_of_le {limit : Nat} {d : Delivery} (many : limit ≤ d.attempt) (channel : Channel)
    (delay : Nat) (s : Service) :
    putOff channel d delay limit s = (false, { s with log := s.log ++ [deadLetter channel d] }) := by
  rw [putOff, if_pos many]
  rfl

theorem putOff_of_lt {limit : Nat} {d : Delivery} (few : d.attempt < limit) (channel : Channel)
    (delay : Nat) (s : Service) :
    putOff channel d delay limit s =
      (true, { s with agenda := s.agenda ++ [⟨s.now + delay, channel, d.again⟩] }) := by
  rw [putOff, if_neg (Nat.not_le_of_lt few)]
  rfl

/-- What is sent again reaches its topic as it was put off, or nothing. -/
theorem resend_leads (r : Redelivery) (s : Service) :
    (sending r.channel [r.delivery]).Leads s (resend r s).2 ∨ Effect.nothing.Leads s (resend r s).2 := by
  have told := leads_log (s := s) [⟨.debug, "Redelivering message",
    [("topic", r.channel.name), ("attempt", Number.decimal r.delivery.attempt)]⟩]
  rcases send_cases r.channel r.delivery { s with log := s.log ++ [⟨.debug, "Redelivering message",
    [("topic", r.channel.name), ("attempt", Number.decimal r.delivery.attempt)]⟩] } with
    ⟨-, t, reached, leads⟩ | ⟨-, failed⟩
  · have same : (resend r s).2 = t := by
      simp only [resend, Service.tell, ExceptT.run, bind, StateT.bind, reached]
      rfl
    rw [same, ← Effect.nothing_append (sending r.channel [r.delivery])]
    exact .inl (told.trans leads)
  · obtain ⟨more, same⟩ : ∃ more, (resend r s).2 = { s with log := s.log ++ more } := by
      simp only [resend, Service.tell, ExceptT.run, bind, StateT.bind, failed]
      exact ⟨_, congrArg (fun log => { s with log }) (List.append_assoc ..)⟩
    rw [same]
    exact .inr (leads_log more)

end Service

namespace RequestConsumer

open Service

/-- How a delivery of a request is dealt with. -/
inductive Settles (q : QueueSettings) (d : Delivery) (request : Request) (s t : Service) :
    Receipt → Prop where
  | done {row : Row} {now : Timestamp}
      (ends : Ends request.documentId request.processor.id now row)
      (saved : t.saved = s.saved ++ [row]) (agenda : t.agenda = s.agenda) :
      Settles q d request s t .ack
  | again (saved : t.saved = s.saved) (few : d.attempt < q.maxDeliveries)
      (agenda : t.agenda =
        s.agenda ++ [⟨s.now + q.redeliveryDelayMs, .requests, d.again⟩]) :
      Settles q d request s t .nack
  | dead {told : Log} (saved : t.saved = s.saved) (many : q.maxDeliveries ≤ d.attempt)
      (agenda : t.agenda = s.agenda) (log : t.log = s.log ++ told ++ [deadLetter .requests d]) :
      Settles q d request s t .nack

/-- Whether the topic of requests is as it was, that of results still open, all that waited to be sent again
waits still, and nothing has become of the store but that the rows that were saved are added. -/
structure Spares (s t : Service) : Prop where
  stored : ∃ rows, t.saved = s.saved ++ rows ∧ t.store = s.store.addingAll rows
  requests : t.topics.requests = s.topics.requests
  completions : t.topics.completions.lifetime = none
  agenda : s.agenda <+: t.agenda

variable {π : Type} {c : Collaborators π} {q : QueueSettings} {d : Delivery} {request : Request}
  {s t u : Service} {outcome : Except ProcessingFailure Row} {effect : Effect} {receipt : Receipt}

theorem conclude_of_isFinal (final : IsFinal outcome) (q : QueueSettings) (d : Delivery)
    (request : Request) (s : Service) :
    ∃ entry, conclude q d request outcome s = (.ack, { s with log := s.log ++ [entry] }) := by
  rcases final with ⟨row, rfl⟩ | ⟨message, rfl⟩
  · exact ⟨_, rfl⟩
  · exact ⟨_, rfl⟩

theorem conclude_of_not_isFinal (again : ¬IsFinal outcome) (q : QueueSettings) (d : Delivery)
    (request : Request) (s : Service) :
    ∃ entry, conclude q d request outcome s =
      (.nack, (putOff .requests d q.redeliveryDelayMs q.maxDeliveries
        { s with log := s.log ++ [entry] }).2) := by
  cases outcome with
  | ok row => exact absurd (.inl ⟨row, rfl⟩) again
  | error failure =>
      cases failure with
      | unretryable message => exact absurd (.inr ⟨message, rfl⟩) again
      | retryable message source => exact ⟨_, rfl⟩

/-- An execution adds nothing to the topic of requests, and does not close that of results. -/
theorem spares_of_course {finding : Finding} {documentId : Uuid} {processorId : String}
    (course : Course c documentId processorId s finding outcome effect) (leads : effect.Leads s t)
    (opened : s.topics.completions.lifetime = none) : Spares s t where
  stored := ⟨_, leads.saved, leads.store_addingAll⟩
  requests := by
    have sent := leads.topics .requests
    have none : effect.sent .requests = [] := by cases course <;> rfl
    rw [none] at sent
    exact (Option.some.inj sent).symm
  completions := by
    have endless : (s.topics.get .completions).lifetime = none := opened
    have sent := leads.topics .completions
    rw [Topic.sendAll_of_endless endless] at sent
    exact (congrArg Topic.lifetime (Option.some.inj sent)).symm.trans opened
  agenda := leads.agenda ▸ List.prefix_refl _

/-- To conclude an execution is to settle the delivery. -/
theorem settles_of_course {said : Option (Except ProcessorFailure Row)}
    (course : Course c request.documentId request.processor.id s (.of said) outcome effect)
    (leads : effect.Leads s t) (apt : IsApt request.documentId said)
    (opened : s.topics.completions.lifetime = none)
    (concluded : conclude q d request outcome t = (receipt, u)) :
    Settles q d request s u receipt ∧ Spares s u := by
  have spares := spares_of_course course leads opened
  by_cases final : IsFinal outcome
  · obtain ⟨row, rows, -⟩ := course.rows_of_isFinal final
    have member : row ∈ effect.rows := by rw [rows]; exact List.mem_singleton_self row
    obtain ⟨entry, same⟩ := conclude_of_isFinal final q d request t
    cases same.symm.trans concluded
    have saved : t.saved = s.saved ++ [row] := by rw [leads.saved, rows]
    exact ⟨.done (course.ends apt row member).1 saved leads.agenda, { spares with }⟩
  · have rows := course.rows_of_not_isFinal final (by simp [Topics.get, Topic.isOpen, opened])
    have saved : t.saved = s.saved := by rw [leads.saved, rows, List.append_nil]
    obtain ⟨entry, same⟩ := conclude_of_not_isFinal final q d request t
    rcases Nat.lt_or_ge d.attempt q.maxDeliveries with few | many
    · rw [putOff_of_lt few] at same
      cases same.symm.trans concluded
      refine ⟨.again saved few ?_, { spares with agenda := ?_ }⟩
      · rw [← leads.agenda, ← leads.now]
      · rw [← leads.agenda]
        exact List.prefix_append ..
    · rw [putOff_of_le many] at same
      cases same.symm.trans concluded
      obtain ⟨told, log⟩ := leads.log
      have same : s.log ++ (told ++ [entry]) ++ [deadLetter .requests d] =
          t.log ++ [entry] ++ [deadLetter .requests d] := by
        rw [← log, ← List.append_assoc]
      exact ⟨.dead saved many leads.agenda same.symm, { spares with }⟩

/-- The work on a delivery of a request begins with the look for its processor. -/
theorem start_of_read (read : Request.read d.payload = .ok request) (c : Collaborators π)
    (q : QueueSettings) (s : Service) :
    start c q d s = match c.registry.find? request.processor.id with
      | some processor => (.calling processor request, s)
      | none =>
          let (outcome, t) := refuse c request.documentId request.processor.id s
          let (receipt, u) := conclude q d request outcome t
          (.done receipt, u) := by
  simp only [start, Procedure.start, read]
  cases c.registry.find? request.processor.id with
  | some processor => rfl
  | none => rfl

/-- A message that is no request is dropped. -/
theorem start_of_unread {fault : Json.Fault} (unread : Request.read d.payload = .error fault)
    (c : Collaborators π) (q : QueueSettings) (s : Service) :
    ∃ entry, start c q d s = (.done .ack, { s with log := s.log ++ [entry] }) := by
  simp only [start, Procedure.start, unread]
  exact ⟨_, rfl⟩

/-- A processor is called only for a request, and nothing is done before. -/
theorem start_calls {processor : Processor π} (started : start c q d s = (.calling processor request, t)) :
    Request.read d.payload = .ok request ∧ c.registry.find? request.processor.id = some processor ∧
      t = s := by
  cases read : Request.read d.payload with
  | error fault =>
      obtain ⟨entry, same⟩ := start_of_unread read c q s
      cases same.symm.trans started
  | ok asked =>
      rw [start_of_read read] at started
      cases found : c.registry.find? asked.processor.id with
      | some processor =>
          rw [found] at started
          cases started
          exact ⟨rfl, found, rfl⟩
      | none =>
          rw [found] at started
          cases started

/-- A request whose processor is not registered takes the course of one that nobody answers. -/
theorem start_course (read : Request.read d.payload = .ok request)
    (started : start c q d s = (.done receipt, t)) :
    ∃ outcome effect u, Course c request.documentId request.processor.id s (.of none) outcome effect ∧
      effect.Leads s u ∧ conclude q d request outcome u = (receipt, t) := by
  rw [start_of_read read] at started
  cases found : c.registry.find? request.processor.id with
  | some processor =>
      rw [found] at started
      cases started
  | none =>
      rw [found] at started
      obtain ⟨outcome, effect, u, ends, course, leads⟩ :=
        pursues_refuse c request.documentId request.processor.id s
      simp only [ends] at started
      refine ⟨outcome, effect, u, course, leads, ?_⟩
      cases started
      rfl

theorem start_settles (read : Request.read d.payload = .ok request)
    (opened : s.topics.completions.lifetime = none) (started : start c q d s = (.done receipt, t)) :
    Settles q d request s t receipt ∧ Spares s t := by
  obtain ⟨outcome, effect, u, course, leads, concluded⟩ := start_course read started
  exact settles_of_course course leads isApt_none opened concluded

theorem start_spares (opened : s.topics.completions.lifetime = none)
    (started : start c q d s = (.done receipt, t)) : Spares s t := by
  cases read : Request.read d.payload with
  | error fault =>
      obtain ⟨entry, same⟩ := start_of_unread read c q s
      cases same.symm.trans started
      exact ⟨⟨[], (List.append_nil _).symm, rfl⟩, rfl, opened, List.prefix_refl _⟩
  | ok request => exact (start_settles read opened started).2

/-- A request takes the course of its processor's answer. -/
theorem finish_course {c : Collaborators Endpoint} {processor : Processor Endpoint}
    (goes : processor.id = request.processor.id) (answer : Except ProcessorFailure Row)
    (finished : finish c q d processor request answer s = (receipt, t)) :
    ∃ outcome effect u,
      Course c request.documentId request.processor.id s (.of (some answer)) outcome effect ∧
      effect.Leads s u ∧ conclude q d request outcome u = (receipt, t) := by
  obtain ⟨outcome, effect, u, ends, course, leads⟩ :=
    pursues_settle c request.documentId request.processor.id s processor goes answer
  refine ⟨outcome, effect, u, course, leads, ?_⟩
  have both : finish c q d processor request answer s = conclude q d request outcome u :=
    congrArg (fun ended : Except ProcessingFailure Row × Service => conclude q d request ended.1 ended.2) ends
  rw [← both, finished]

theorem finish_settles {c : Collaborators Endpoint} {processor : Processor Endpoint}
    (goes : processor.id = request.processor.id) (exchange : Http.Exchange)
    (opened : s.topics.completions.lifetime = none)
    (finished : finish c q d processor request
      (processor.duty.answer request.documentId exchange) s = (receipt, t)) :
    Settles q d request s t receipt ∧ Spares s t := by
  obtain ⟨outcome, effect, u, course, leads, concluded⟩ := finish_course goes _ finished
  exact settles_of_course course leads (isApt_answer processor.duty exchange) opened concluded

/-- Whether only rows that end a request were saved, the refusals among them dated by the clock as it stood,
and the clock was not turned back. -/
structure Advances (c : Collaborators π) (request : Request) (s t : Service) : Prop where
  saved : ∃ rows, t.saved = s.saved ++ rows ∧
    ∀ row ∈ rows, Ends request.documentId request.processor.id (c.clock s.readings) row
  readings : s.readings ≤ t.readings

theorem conclude_keeps (q : QueueSettings) (d : Delivery) (request : Request)
    (outcome : Except ProcessingFailure Row) (s : Service) :
    (conclude q d request outcome s).2.saved = s.saved ∧
      (conclude q d request outcome s).2.readings = s.readings := by
  by_cases final : IsFinal outcome
  · obtain ⟨entry, same⟩ := conclude_of_isFinal final q d request s
    rw [same]
    exact ⟨rfl, rfl⟩
  · obtain ⟨entry, same⟩ := conclude_of_not_isFinal final q d request s
    rw [same]
    rcases Nat.lt_or_ge d.attempt q.maxDeliveries with few | many
    · rw [putOff_of_lt few]
      exact ⟨rfl, rfl⟩
    · rw [putOff_of_le many]
      exact ⟨rfl, rfl⟩

theorem advances_of_course {said : Option (Except ProcessorFailure Row)}
    (course : Course c request.documentId request.processor.id s (.of said) outcome effect)
    (leads : effect.Leads s t) (apt : IsApt request.documentId said)
    (concluded : conclude q d request outcome t = (receipt, u)) : Advances c request s u := by
  obtain ⟨saved, readings⟩ := conclude_keeps q d request outcome t
  rw [concluded] at saved readings
  exact {
    saved := ⟨effect.rows, saved.trans leads.saved, fun row member => (course.ends apt row member).1⟩
    readings := by
      rw [readings, leads.readings]
      exact Nat.le_add_right _ _ }

theorem start_advances (read : Request.read d.payload = .ok request)
    (started : start c q d s = (.done receipt, t)) : Advances c request s t := by
  obtain ⟨outcome, effect, u, course, leads, concluded⟩ := start_course read started
  exact advances_of_course course leads isApt_none concluded

theorem finish_advances {c : Collaborators Endpoint} {processor : Processor Endpoint}
    (goes : processor.id = request.processor.id) (exchange : Http.Exchange)
    (finished : finish c q d processor request
      (processor.duty.answer request.documentId exchange) s = (receipt, t)) :
    Advances c request s t := by
  obtain ⟨outcome, effect, u, course, leads, concluded⟩ := finish_course goes _ finished
  exact advances_of_course course leads (isApt_answer processor.duty exchange) concluded

end RequestConsumer

end Dossier
