import Dossier.Proofs.Except
import Dossier.Service.Basic

/-! # Effects

What an operation of a service adds to it: rows to its store and deliveries to its topics. An effect is
exact: nothing but what it lists is added, and nothing is taken away, so effects of operations that
follow one another are put together by appending them.
-/

namespace Dossier

/-- The store with more rows, saved one after the other. -/
def Store.saveAll (store : Store) (rows : List Row) : Except DatabaseFailure Store :=
  rows.foldlM Store.save store

theorem Store.saveAll_memory (rows more : List Row) :
    (Store.memory rows).saveAll more = .ok (.memory (rows ++ more)) := by
  induction more generalizing rows with
  | nil => rw [List.append_nil]; rfl
  | cons row more ih =>
      have step := ih (rows ++ [row])
      rw [List.append_assoc] at step
      exact step

/-- The store with one more row, as it keeps it. -/
def Store.adding (row : Row) : Store → Store
  | .memory rows => .memory (rows ++ [row])
  | .table t => .table ⟨t.records.map (· ++ [.ofRow row])⟩

theorem Store.save_ok {store after : Store} {row : Row} (saved : store.save row = .ok after) :
    after = store.adding row := by
  cases store with
  | memory rows =>
      cases saved
      rfl
  | table t =>
      obtain ⟨next, inserted, same⟩ := map_eq_ok.mp saved
      cases same
      simp only [Table.save, Table.insert, bind_eq_ok] at inserted
      obtain ⟨records, present, same⟩ := inserted
      cases same
      cases t with
      | mk kept =>
          cases kept with
          | none => cases present
          | some kept =>
              cases present
              rfl

/-- The store with more rows. -/
def Store.addingAll (store : Store) (rows : List Row) : Store :=
  rows.foldl (fun store row => store.adding row) store

theorem Store.saveAll_ok {store after : Store} {rows : List Row} (saved : store.saveAll rows = .ok after) :
    after = store.addingAll rows := by
  induction rows generalizing store with
  | nil => exact (Except.ok.inj saved).symm
  | cons row rows ih =>
      rw [saveAll, List.foldlM_cons, bind_eq_ok] at saved
      obtain ⟨next, first, others⟩ := saved
      obtain rfl := save_ok first
      exact ih others

/-- The topic with more deliveries, sent one after the other. -/
def Topic.sendAll (topic : Topic) (deliveries : List Delivery) : Option Topic :=
  deliveries.foldlM Topic.send? topic

/-- What is added to a service. -/
structure Effect where
  rows : List Row := []
  requests : List Delivery := []
  completions : List Delivery := []
  events : List Delivery := []
  /-- How often the clock is read. -/
  readings : Nat := 0

namespace Effect

/-- Nothing is added. -/
def nothing : Effect := {}

/-- The deliveries that are sent on a topic. -/
def sent (e : Effect) : Channel → List Delivery
  | .requests => e.requests
  | .completions => e.completions
  | .events => e.events

instance : Append Effect where
  append a b := ⟨a.rows ++ b.rows, a.requests ++ b.requests, a.completions ++ b.completions,
    a.events ++ b.events, a.readings + b.readings⟩

@[simp] theorem rows_append (a b : Effect) : (a ++ b).rows = a.rows ++ b.rows := rfl

@[simp] theorem sent_append (a b : Effect) (channel : Channel) :
    (a ++ b).sent channel = a.sent channel ++ b.sent channel := by
  cases channel <;> rfl

@[simp] theorem readings_append (a b : Effect) :
    (a ++ b).readings = a.readings + b.readings := rfl

@[simp] theorem nothing_append (e : Effect) : nothing ++ e = e :=
  congrArg (Effect.mk e.rows e.requests e.completions e.events) (Nat.zero_add e.readings)

/-- Whether a service has come of another by an effect and by nothing else that anyone can see, but for
what it has told. -/
structure Leads (e : Effect) (before after : Service) : Prop where
  store : before.store.saveAll e.rows = .ok after.store
  saved : after.saved = before.saved ++ e.rows
  topics : ∀ channel,
    (before.topics.get channel).sendAll (e.sent channel) = some (after.topics.get channel)
  readings : after.readings = before.readings + e.readings
  agenda : after.agenda = before.agenda
  now : after.now = before.now
  log : before.log <+: after.log

namespace Leads

theorem refl (s : Service) : nothing.Leads s s where
  store := rfl
  saved := (List.append_nil _).symm
  topics channel := by cases channel <;> rfl
  readings := rfl
  agenda := rfl
  now := rfl
  log := List.prefix_refl _

theorem trans {a b : Effect} {s t u : Service} (first : a.Leads s t) (second : b.Leads t u) :
    (a ++ b).Leads s u where
  store := by
    have step : (s.store.saveAll a.rows >>= fun store => store.saveAll b.rows) = .ok u.store := by
      rw [first.store]
      exact second.store
    simpa only [Store.saveAll, rows_append, List.foldlM_append] using step
  saved := by rw [second.saved, first.saved, rows_append, List.append_assoc]
  topics channel := by
    have step : ((s.topics.get channel).sendAll (a.sent channel) >>= fun topic =>
        topic.sendAll (b.sent channel)) = some (u.topics.get channel) := by
      rw [first.topics channel]
      exact second.topics channel
    simpa only [Topic.sendAll, sent_append, List.foldlM_append] using step
  readings := by rw [second.readings, first.readings, readings_append, Nat.add_assoc]
  agenda := second.agenda.trans first.agenda
  now := second.now.trans first.now
  log := first.log.trans second.log

end Leads

end Effect

theorem Topics.ext_get {ts us : Topics} (same : ∀ channel, ts.get channel = us.get channel) :
    ts = us := by
  cases ts
  cases us
  rw [Topics.mk.injEq]
  exact ⟨same .requests, same .completions, same .events⟩

namespace Effect.Leads

variable {e : Effect} {s t : Service}

/-- A topic to which nothing is sent stays as it was. -/
theorem untouched (leads : e.Leads s t) {channel : Channel} (quiet : e.sent channel = []) :
    t.topics.get channel = s.topics.get channel := by
  have sent := leads.topics channel
  rw [quiet] at sent
  exact (Option.some.inj sent).symm

/-- All that becomes of the store is that the rows of the effect are added. -/
theorem store_addingAll (leads : e.Leads s t) : t.store = s.store.addingAll e.rows :=
  Store.saveAll_ok leads.store

theorem store_adding {row : Row} (leads : e.Leads s t) (one : e.rows = [row]) :
    t.store = s.store.adding row := by
  rw [leads.store_addingAll, one]
  rfl

/-- A store to which nothing is added stays as it was. -/
theorem store_eq (leads : e.Leads s t) (quiet : e.rows = []) : t.store = s.store := by
  have saved := leads.store
  rw [quiet] at saved
  exact (Except.ok.inj saved).symm

theorem unchanged (leads : Effect.nothing.Leads s t) : t.store = s.store ∧ t.topics = s.topics :=
  ⟨leads.store_eq rfl, Topics.ext_get fun channel => leads.untouched (by cases channel <;> rfl)⟩

end Effect.Leads

namespace Topic

/-- The topic with one more delivery. -/
def adding (topic : Topic) (d : Delivery) : Topic :=
  { topic with sent := topic.sent ++ [d], lifetime := topic.lifetime.map (· - 1) }

theorem sendAll_singleton {topic after : Topic} {d : Delivery}
    (sent : topic.sendAll [d] = some after) : after = topic.adding d := by
  have once : topic.send? d = some after := by simpa [sendAll] using sent
  simp only [send?, Option.ite_none_right_eq_some, Option.some.injEq] at once
  exact once.2.symm

/-- A topic that has taken deliveries has them behind those that it had. -/
theorem sent_of_sendAll {topic after : Topic} {deliveries : List Delivery}
    (h : topic.sendAll deliveries = some after) : after.sent = topic.sent ++ deliveries := by
  induction deliveries generalizing topic with
  | nil =>
      cases h
      exact (List.append_nil _).symm
  | cons d rest ih =>
      rw [sendAll, List.foldlM_cons, Option.bind_eq_bind, Option.bind_eq_some_iff] at h
      obtain ⟨next, sent, others⟩ := h
      rw [ih others]
      simp only [send?, Option.ite_none_right_eq_some, Option.some.injEq] at sent
      rw [← sent.2, List.append_assoc, List.singleton_append]

theorem taken_of_sendAll {topic after : Topic} {deliveries : List Delivery}
    (h : topic.sendAll deliveries = some after) : after.taken = topic.taken := by
  induction deliveries generalizing topic with
  | nil =>
      cases h
      rfl
  | cons d rest ih =>
      rw [sendAll, List.foldlM_cons, Option.bind_eq_bind, Option.bind_eq_some_iff] at h
      obtain ⟨next, sent, others⟩ := h
      simp only [send?, Option.ite_none_right_eq_some, Option.some.injEq] at sent
      rw [ih others, ← sent.2]

/-- A topic whose receiver stays for good takes any number of deliveries, and its receiver still
stays for good. -/
theorem sendAll_of_endless {topic : Topic} (endless : topic.lifetime = none)
    (deliveries : List Delivery) :
    topic.sendAll deliveries = some { topic with sent := topic.sent ++ deliveries } := by
  induction deliveries generalizing topic with
  | nil => simp [sendAll, pure]
  | cons d rest ih =>
      have opened : topic.isOpen = true := by simp [isOpen, endless]
      have step := @ih { topic with sent := topic.sent ++ [d] } endless
      simp only [sendAll] at step ⊢
      simp only [List.foldlM_cons, send?, opened, if_true, endless, Option.map_none,
        Option.bind_eq_bind, Option.bind_some]
      simpa only [endless, List.append_assoc, List.singleton_append] using step

end Topic

end Dossier
