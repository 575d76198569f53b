import Dossier.Proofs.Consumer.Work

/-! # Work that puts its delivery off

A consumer puts off the delivery that it works on, or puts off nothing; and it does so as the last thing, just if it
does not acknowledge the delivery. All else that is done puts nothing off, and what it sends is sent for the first
time. Main statements: `Act.posts`, `Work.retries_event` and `Work.retries_request`.
-/

namespace Dossier.Service

variable {π ε α β : Type} {channel : Channel} {d : Delivery} {limit : Nat} {s t u : Service}

/-- The deliveries that wait to be sent again on a topic. -/
def duesOf (channel : Channel) (agenda : List Redelivery) : List Delivery :=
  (agenda.filter (·.channel = channel)).map (·.delivery)

theorem duesOf_append (channel : Channel) (agenda more : List Redelivery) :
    duesOf channel (agenda ++ more) = duesOf channel agenda ++ duesOf channel more := by
  simp only [duesOf, List.filter_append, List.map_append]

/-- Whether a service has come of another with some messages posted on a topic and, as far as that topic goes, with
nothing else taken, put off or sent again. Its receiver may have gone away. -/
structure Posts (channel : Channel) (fresh : List String) (s t : Service) : Prop where
  sent : (t.topics.get channel).sent = (s.topics.get channel).sent ++ fresh.map .first
  taken : (t.topics.get channel).taken = (s.topics.get channel).taken
  dues : duesOf channel t.agenda = duesOf channel s.agenda

theorem Posts.refl (channel : Channel) (s : Service) : Posts channel [] s s :=
  ⟨(List.append_nil _).symm, rfl, rfl⟩

theorem posts_of_leads {e : Effect} (leads : e.Leads s t) {fresh : List String}
    (sent : e.sent channel = fresh.map .first) : Posts channel fresh s t where
  sent := sent ▸ Topic.sent_of_sendAll (leads.topics channel)
  taken := Topic.taken_of_sendAll (leads.topics channel)
  dues := congrArg (duesOf channel) leads.agenda

theorem posts_of_nothing (leads : Effect.nothing.Leads s t) : Posts channel [] s t :=
  posts_of_leads leads (by cases channel <;> rfl)

theorem Deed.posts (deed : Deed π α) (channel : Channel) (s : Service) :
    ∃ fresh, Posts channel fresh s (deed.perform s).2 := by
  cases deed with
  | tell level message fields => exact ⟨[], posts_of_nothing (leads_log _)⟩
  | readClock c => exact ⟨[], posts_of_leads leads_readings (by cases channel <;> rfl)⟩
  | save c row =>
      rcases save_cases c row s with ⟨-, t, saved, leads, -⟩ | ⟨-, failure, t, failed, leads⟩
      · rw [perform, ExceptT.run, saved]
        exact ⟨[], posts_of_leads leads (by cases channel <;> rfl)⟩
      · rw [perform, ExceptT.run, failed]
        exact ⟨[], posts_of_nothing leads⟩
  | ask c question =>
      obtain ⟨outcome, asked⟩ := ask_cases c question s
      rw [perform, ExceptT.run, asked]
      exact ⟨[], posts_of_nothing { Effect.Leads.refl s with }⟩
  | publish other payload =>
      rcases publish_cases other payload s with ⟨-, t, sent, leads⟩ | ⟨-, failed⟩
      · rw [perform, ExceptT.run, sent]
        have all := sent_sending other channel [.first payload]
        split at all
        · exact ⟨[payload], posts_of_leads leads all⟩
        · exact ⟨[], posts_of_leads leads all⟩
      · rw [perform, ExceptT.run, failed]
        exact ⟨[], .refl channel s⟩

/-- Whether an act puts nothing off on a topic. -/
def Act.Plain (channel : Channel) : Act π α → Prop
  | .putOff other _ _ _ => other ≠ channel
  | .deed _ | .look _ | .call _ _ => True

/-- An act that puts nothing off on a topic does no more to it than post messages. -/
theorem Act.posts {act : Act π α} (plain : act.Plain channel) (o : Others π) (s : Service) :
    ∃ fresh, Posts channel fresh s (act.perform o s).2 := by
  cases act with
  | deed single => exact single.posts channel s
  | look | call => exact ⟨[], .refl channel s⟩
  | putOff other d delay limit =>
      rcases Nat.lt_or_ge d.attempt limit with few | many
      · rw [perform, putOff_of_lt few]
        have none : duesOf channel [⟨s.now + delay, other, d.again⟩] = [] := by
          simp only [duesOf, List.filter_cons, decide_eq_true_eq, if_neg (show other ≠ channel from plain),
            List.filter_nil, List.map_nil]
        exact ⟨[], (List.append_nil _).symm, rfl, by rw [duesOf_append, none, List.append_nil]⟩
      · rw [perform, putOff_of_le many]
        exact ⟨[], posts_of_nothing (leads_log _)⟩

namespace Work

/-- Whether all acts of work are plain, whatever they give back. -/
def Plain (channel : Channel) : Work π α → Prop
  | .done _ => True
  | .doing act rest => act.Plain channel ∧ ∀ b, (rest b).Plain channel

theorem Plain.bind {work : Work π α} {next : α → Work π β} (plain : work.Plain channel)
    (more : ∀ a, (next a).Plain channel) : (work >>= next).Plain channel := by
  induction work with
  | done a => exact more a
  | doing act rest ih => exact ⟨plain.1, fun b => ih b (plain.2 b)⟩

theorem plain_ofTask (task : Task π ε α) : (ofTask task).Plain channel := by
  induction task with
  | done outcome => trivial
  | doing deed rest ih => exact ⟨trivial, ih⟩

theorem plain_tell (level : LogLevel) (message : String) (fields : List (String × String)) :
    (tell level message fields : Work π Unit).Plain channel := ⟨trivial, fun _ => trivial⟩

theorem plain_putOff {other : Channel} (different : other ≠ channel) (d : Delivery) (delay limit : Nat) :
    (putOff other d delay limit : Work π Bool).Plain channel := ⟨different, fun _ => trivial⟩

theorem compositional_plain : Compositional (π := π) fun _ work => work.Plain channel :=
  ⟨fun _ => trivial, plain_tell, Plain.bind⟩

theorem plain_initiate (c : Collaborators π) (documentId : Uuid) (processorIds : List String)
    (again : Bool) : (initiate c documentId processorIds again).Plain channel :=
  compositional_plain.initiate (plain_ofTask _) fun _ => ⟨trivial, fun _ => plain_ofTask _⟩

theorem plain_execute (c : Collaborators π) (documentId : Uuid) (processorId : String) :
    (execute c documentId processorId).Plain channel := by
  unfold execute Procedure.execute
  split
  · exact plain_ofTask _
  · exact ⟨trivial, fun answer => plain_ofTask _⟩

theorem plain_handleEvent (c : Collaborators π) (event : Event) :
    (Procedure.handleEvent (initiate c) event).Plain channel :=
  compositional_plain.handleEvent (fun documentId processorIds => plain_initiate c documentId processorIds false) event

/-- The work on a line puts nothing off at all. -/
theorem plain_line (c : Collaborators π) (text : String) : (line c text).Plain channel :=
  compositional_plain.line fun _ _ => plain_ofTask _

/-- A consumer puts nothing off on the topic of another. -/
theorem plain_event (different : .events ≠ channel) (c : Collaborators π) (q : QueueSettings)
    (d : Delivery) : (event c q d).Plain channel :=
  compositional_plain.event (fun documentId processorIds => plain_initiate c documentId processorIds false)
    (plain_putOff different d)

theorem plain_request (different : .requests ≠ channel) (c : Collaborators π) (q : QueueSettings)
    (d : Delivery) : (request c q d).Plain channel :=
  compositional_plain.request (plain_execute c) (plain_putOff different d)

/-- Whether work on a delivery puts nothing off on its topic and acknowledges the delivery, or else puts the
delivery off as the last thing that it does. -/
inductive Retries (channel : Channel) (d : Delivery) (limit : Nat) : Work π Receipt → Prop where
  | ack : Retries channel d limit (.done .ack)
  | act {β : Type} {act : Act π β} {rest : β → Work π Receipt} (plain : act.Plain channel)
      (more : ∀ b, Retries channel d limit (rest b)) : Retries channel d limit (.doing act rest)
  | putOff (delay : Nat) :
      Retries channel d limit (.doing (.putOff channel d delay limit) fun _ => .done .nack)

theorem Plain.retries {work : Work π α} {next : α → Work π Receipt} (plain : work.Plain channel)
    (more : ∀ a, (next a).Retries channel d limit) : (work >>= next).Retries channel d limit := by
  induction work with
  | done a => exact more a
  | doing act rest ih => exact .act plain.1 fun b => ih b (plain.2 b)

variable (c : Collaborators π) (q : QueueSettings) (d)

theorem retries_acknowledge (handled : Except EventFailure Unit) :
    (Procedure.acknowledge q d handled : Work π Receipt).Retries .events d q.maxDeliveries := by
  cases handled with
  | ok done => exact .ack
  | error failure =>
      unfold Procedure.acknowledge
      dsimp only
      split
      · exact (plain_tell _ _ _).retries fun _ => .putOff _
      · exact .ack

theorem retries_event : (event c q d).Retries .events d q.maxDeliveries := by
  unfold event Procedure.consumeEvent
  split
  · exact (plain_tell _ _ _).retries fun _ => .ack
  · exact (plain_handleEvent c _).retries (retries_acknowledge d q)

theorem retries_conclude (request : Request) (outcome : Except ProcessingFailure Row) :
    (conclude q d request outcome : Work π Receipt).Retries .requests d q.maxDeliveries := by
  cases outcome with
  | ok row => exact (plain_tell _ _ _).retries fun _ => .ack
  | error failure =>
      cases failure with
      | unretryable message => exact (plain_tell _ _ _).retries fun _ => .ack
      | retryable message source => exact (plain_tell _ _ _).retries fun _ => .putOff _

theorem retries_request : (request c q d).Retries .requests d q.maxDeliveries := by
  cases read : Request.read d.payload with
  | error fault =>
      rw [request_of_unread read]
      exact (plain_tell _ _ _).retries fun _ => .ack
  | ok asked =>
      rw [request_of_read read]
      exact (plain_execute c _ _).retries (retries_conclude d q asked)

end Work

end Dossier.Service
