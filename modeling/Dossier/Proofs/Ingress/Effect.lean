import Dossier.Proofs.Ingress.Recorded

/-! # What a line does

A line is answered in one of few ways, and each of them has one effect: an event is published, a row is saved,
or nothing is changed at all. Whatever the line is, and whoever fails, an error changes nothing. Main statements:
`answer_deals` and `answer_changes`.
-/

namespace Dossier

namespace Ingress

open Service

variable {π : Type} {c : Collaborators π} {s t : Service} {line : String} {command : Command}
  {reply : Reply} {effect : Effect}

/-- The rows that a question asks for. -/
def query (c : Collaborators π) (documentId : Uuid) :
    Option (List ProcessorRef) → Attempt ServiceFailure (List Row)
  | none => results c documentId
  | some processors => resultsFrom c documentId (processors.map ProcessorRef.id)

theorem execute_query (c : Collaborators π) (documentId : Uuid)
    (processors : Option (List ProcessorRef)) :
    execute c (.results documentId processors) =
      query c documentId processors >>= fun rows => pure (.results rows) := by
  cases processors with
  | none => rfl
  | some processors => rfl

theorem query_cases (c : Collaborators π) (documentId : Uuid)
    (processors : Option (List ProcessorRef)) (s : Service) :
    ∃ outcome, query c documentId processors s = (outcome, { s with finds := s.finds + 1 }) := by
  cases processors with
  | none =>
      obtain ⟨outcome, asked⟩ := ask_cases c (·.find documentId) s
      cases outcome with
      | error failure => exact ⟨_, bind_error asked⟩
      | ok rows => exact ⟨_, bind_ok asked⟩
  | some processors => exact ask_cases c (·.findFrom documentId (processors.map ProcessorRef.id)) s

/-- What comes of a command: the reply to it, or why there is none, and what is added. -/
inductive Serves (c : Collaborators π) (s : Service) :
    Command → Except ServiceFailure Reply → Effect → Prop where
  | accepted {event : Event} (opened : s.topics.events.isOpen = true) :
      Serves c s (.initiate event) (.ok (.accepted event.id)) { events := [.first event.text] }
  | closed {event : Event} (closed : s.topics.events.isOpen = false) :
      Serves c s (.initiate event) (.error (.closed Channel.events.name)) .nothing
  | listed {documentId : Uuid} {processors : Option (List ProcessorRef)} {rows : List Row}
      (asked : (query c documentId processors s).1 = .ok rows) :
      Serves c s (.results documentId processors) (.ok (.results rows)) .nothing
  | unanswered {documentId : Uuid} {processors : Option (List ProcessorRef)}
      {failure : ServiceFailure} (asked : (query c documentId processors s).1 = .error failure) :
      Serves c s (.results documentId processors) (.error failure) .nothing
  | recorded {row : Row} (taken : s.Takes c row) :
      Serves c s (.record row) (.ok .recorded) { rows := [row] }
  | refused {row : Row} {failure : ServiceFailure} (refused : ¬s.Takes c row)
      (saved : (save c row s).1 = .error failure) :
      Serves c s (.record row) (.error failure) .nothing

/-- What comes of a line: the reply to it, and what is added. -/
inductive Deals (c : Collaborators π) (s : Service) (line : String) : Reply → Effect → Prop where
  | malformed {fault : Json.Fault} (unread : Command.read line = .error fault) :
      Deals c s line (.error fault.message) .nothing
  | served {command : Command} {reply : Reply} {effect : Effect}
      (read : Command.read line = .ok command) (serves : Serves c s command (.ok reply) effect) :
      Deals c s line reply effect
  | failed {command : Command} {failure : ServiceFailure} {effect : Effect}
      (read : Command.read line = .ok command)
      (serves : Serves c s command (.error failure) effect) :
      Deals c s line (.error failure.chainText) effect

theorem Serves.nothing_of_error {failure : ServiceFailure}
    (serves : Serves c s command (.error failure) effect) : effect = .nothing := by
  cases serves with
  | closed | unanswered | refused => rfl

/-- A command adds nothing to the topics of requests and of results. -/
theorem Serves.quiet {outcome : Except ServiceFailure Reply}
    (serves : Serves c s command outcome effect) :
    effect.sent .requests = [] ∧ effect.sent .completions = [] := by
  cases serves with
  | accepted | closed | listed | unanswered | recorded | refused => exact ⟨rfl, rfl⟩

theorem Deals.quiet (deals : Deals c s line reply effect) :
    effect.sent .requests = [] ∧ effect.sent .completions = [] := by
  cases deals with
  | malformed => exact ⟨rfl, rfl⟩
  | served read serves | failed read serves => exact serves.quiet

theorem Reply.toJson_single (reply : Reply) :
    ∃ key ∈ ["accepted", "results", "recorded", "error"], ∃ value,
      reply.toJson = .object [(key, value)] := by
  cases reply with
  | accepted id => exact ⟨"accepted", by simp, _, rfl⟩
  | results rows => exact ⟨"results", by simp, _, rfl⟩
  | recorded => exact ⟨"recorded", by simp, _, rfl⟩
  | error message => exact ⟨"error", by simp, _, rfl⟩

/-- Each command is served, and the effect is exact. -/
theorem execute_serves (c : Collaborators π) (command : Command) (s : Service) :
    ∃ outcome effect t, execute c command s = (outcome, t) ∧ Serves c s command outcome effect ∧
      effect.Leads s t := by
  cases command with
  | initiate event =>
      rcases publish_cases .events event.text s with ⟨opened, t, sent, leads⟩ | ⟨closed, failed⟩
      · exact ⟨_, _, _, bind_ok (explain_ok sent), .accepted opened, leads.trans (leads_log _)⟩
      · exact ⟨_, _, s, bind_error (explain_error failed), .closed closed, .refl s⟩
  | results documentId processors =>
      obtain ⟨outcome, asked⟩ := query_cases c documentId processors s
      rw [execute_query]
      cases outcome with
      | ok rows =>
          exact ⟨_, _, _, bind_ok asked, .listed (congrArg Prod.fst asked), { Effect.Leads.refl s with }⟩
      | error failure =>
          exact ⟨_, _, _, bind_error asked, .unanswered (congrArg Prod.fst asked),
            { Effect.Leads.refl s with }⟩
  | record row =>
      rcases save_cases c row s with ⟨taken, t, saved, leads, -⟩ | ⟨refused, failure, t, failed, leads⟩
      · exact ⟨_, _, t, bind_ok saved, .recorded taken, leads⟩
      · exact ⟨_, _, t, bind_error failed, .refused refused (congrArg Prod.fst failed), leads⟩

/-- Each line is dealt with, and the effect is exact. -/
theorem answer_deals (c : Collaborators π) (line : String) (s : Service) :
    ∃ reply effect t, answer c line s = (reply, t) ∧ Deals c s line reply effect ∧
      effect.Leads s t := by
  cases read : Command.read line with
  | error fault =>
      obtain ⟨entry, same⟩ := answer_of_unread (c := c) (s := s) read
      exact ⟨_, _, _, same, .malformed read, leads_log _⟩
  | ok command =>
      obtain ⟨outcome, effect, t, ends, serves, leads⟩ := execute_serves c command s
      cases outcome with
      | ok reply => exact ⟨_, _, _, answer_of_ok read ends, .served read serves, leads⟩
      | error failure =>
          obtain ⟨entry, same⟩ := answer_of_error read ends
          obtain rfl := serves.nothing_of_error
          exact ⟨_, _, _, same, .failed read serves, leads.trans (leads_log _)⟩

/-- An error changes neither the store nor a topic, and a success has just the one effect that its reply
speaks of: an accepted event is published, a recorded row is saved, and rows are only listed. -/
theorem answer_changes (c : Collaborators π) (line : String) (s : Service) :
    ∃ reply effect t, answer c line s = (reply, t) ∧
      (∃ key ∈ ["accepted", "results", "recorded", "error"], ∃ value,
        reply.toJson = .object [(key, value)]) ∧
      Deals c s line reply effect ∧ effect.Leads s t ∧
      (∀ message, reply = .error message → t.store = s.store ∧ t.topics = s.topics) ∧
      (∀ rows, reply = .results rows → t.store = s.store ∧ t.topics = s.topics) ∧
      (∀ id, reply = .accepted id → ∃ event, Command.read line = .ok (.initiate event) ∧
        event.id = id ∧ t.store = s.store ∧
        t.topics.events = s.topics.events.adding (.first event.text)) ∧
      (reply = .recorded → ∃ row, Command.read line = .ok (.record row) ∧
        t.store = s.store.adding row ∧ t.topics.events = s.topics.events) ∧
      t.topics.requests = s.topics.requests ∧ t.topics.completions = s.topics.completions := by
  obtain ⟨reply, effect, t, answered, deals, leads⟩ := answer_deals c line s
  have requests := leads.untouched deals.quiet.1
  have completions := leads.untouched deals.quiet.2
  refine ⟨reply, effect, t, answered, reply.toJson_single, deals, leads, ?_, ?_, ?_, ?_, requests,
    completions⟩
  · rintro message rfl
    cases deals with
    | malformed => exact leads.unchanged
    | served read serves => cases serves
    | failed read serves =>
        obtain rfl := serves.nothing_of_error
        exact leads.unchanged
  · rintro rows rfl
    cases deals with
    | served read serves =>
        cases serves with
        | listed => exact leads.unchanged
  · rintro id rfl
    cases deals with
    | served read serves =>
        cases serves with
        | accepted =>
            exact ⟨_, read, rfl, leads.store_eq rfl, Topic.sendAll_singleton (leads.topics .events)⟩
  · rintro rfl
    cases deals with
    | served read serves =>
        cases serves with
        | recorded =>
            have events : t.topics.get .events = s.topics.get .events := leads.untouched rfl
            exact ⟨_, read, leads.store_adding rfl, events⟩

end Ingress

end Dossier
