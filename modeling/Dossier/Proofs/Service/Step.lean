import Dossier.Proofs.Except
import Dossier.Proofs.Service.Effect

/-! # Steps of the service

What each of the steps does that all operations are made of: how it ends, and its effect. Operations are
taken apart by `bind_ok`, `bind_error` and `of_bind_ok` and need not open these steps again.
-/

namespace Dossier.Service

variable {π ε ε' α β : Type} {c : Collaborators π} {s t : Service} {row : Row}

theorem bind_ok {first : Attempt ε α} {rest : α → Attempt ε β} {a : α}
    (h : first s = (.ok a, t)) : (first >>= rest) s = rest a t := by
  simp only [bind, ExceptT.bind, ExceptT.mk, StateT.bind, h, ExceptT.bindCont]

theorem bind_error {first : Attempt ε α} {rest : α → Attempt ε β} {e : ε}
    (h : first s = (.error e, t)) : (first >>= rest) s = (.error e, t) := by
  simp only [bind, ExceptT.bind, ExceptT.mk, StateT.bind, h, ExceptT.bindCont]
  rfl

theorem of_bind_ok {first : Attempt ε α} {rest : α → Attempt ε β} {b : β}
    (h : (first >>= rest) s = (.ok b, t)) : ∃ a u, first s = (.ok a, u) ∧ rest a u = (.ok b, t) := by
  rcases ends : first s with ⟨e | a, u⟩
  · rw [bind_error ends] at h
    cases h
  · exact ⟨a, u, rfl, (bind_ok ends).symm.trans h⟩

/-- What follows an attempt goes on by how it ended. -/
theorem run_bind {operation : Attempt ε α} {rest : Except ε α → StateM Service β} {outcome : Except ε α}
    (h : operation s = (outcome, t)) : (operation.run >>= rest) s = rest outcome t :=
  congrArg (fun ended : Except ε α × Service => rest ended.1 ended.2) h

theorem explain_ok {attempt : Attempt ε α} {meaning : ε → ε'} {a : α}
    (h : attempt s = (.ok a, t)) : explain meaning attempt s = (.ok a, t) := by
  simp only [explain, h, mapError_ok]

theorem explain_error {attempt : Attempt ε α} {meaning : ε → ε'} {e : ε}
    (h : attempt s = (.error e, t)) : explain meaning attempt s = (.error (meaning e), t) := by
  simp only [explain, h, mapError_error]

theorem tell_bind (level : LogLevel) (message : String) (fields : List (String × String))
    (rest : Unit → Attempt ε α) :
    ((tell level message fields : Attempt ε Unit) >>= rest) s =
      rest () { s with log := s.log ++ [⟨level, message, fields⟩] } := rfl

theorem readClock_bind (rest : Timestamp → Attempt ε α) :
    ((readClock c : Attempt ε Timestamp) >>= rest) s =
      rest (c.clock s.readings) { s with readings := s.readings + 1 } := rfl

theorem leads_log (told : Log) : Effect.nothing.Leads s { s with log := s.log ++ told } :=
  { Effect.Leads.refl s with log := List.prefix_append s.log told }

theorem leads_readings : Effect.Leads { readings := 1 } s { s with readings := s.readings + 1 } :=
  { Effect.Leads.refl s with readings := rfl }

/-- Whether the store takes a row at its next saving. -/
def Takes (c : Collaborators π) (s : Service) (row : Row) : Prop :=
  c.saveFault s.saves = none ∧ ∃ store, s.store.save row = .ok store

/-- A row that is taken is all that is added, and one that is not taken changes nothing. -/
theorem save_cases (c : Collaborators π) (row : Row) (s : Service) :
    (s.Takes c row ∧ ∃ t, save c row s = (.ok (), t) ∧ Effect.Leads { rows := [row] } s t ∧
      t.topics = s.topics) ∨
    (¬s.Takes c row ∧ ∃ failure t, save c row s = (.error failure, t) ∧
      Effect.nothing.Leads s t) := by
  cases fault : c.saveFault s.saves with
  | some failure =>
      refine .inr ⟨fun taken => ?_, failure, { s with saves := s.saves + 1 }, ?_, ?_⟩
      · rw [taken.1] at fault
        cases fault
      · simp only [save, fault]
      · exact { Effect.Leads.refl s with }
  | none =>
      cases kept : s.store.save row with
      | error failure =>
          refine .inr ⟨fun taken => ?_, .database failure, { s with saves := s.saves + 1 }, ?_, ?_⟩
          · obtain ⟨store, same⟩ := taken.2
            rw [same] at kept
            cases kept
          · simp only [save, fault, kept]
          · exact { Effect.Leads.refl s with }
      | ok store =>
          refine .inl ⟨⟨fault, store, kept⟩, { s with
            saves := s.saves + 1, store, saved := s.saved ++ [row] }, ?_, ?_, rfl⟩
          · simp only [save, fault, kept]
          · exact { Effect.Leads.refl s with
              store := by simp only [Store.saveAll, List.foldlM_cons, kept]; rfl
              saved := rfl }

/-- The effect of sending deliveries on one topic. -/
def sending (channel : Channel) (deliveries : List Delivery) : Effect :=
  match channel with
  | .requests => { requests := deliveries }
  | .completions => { completions := deliveries }
  | .events => { events := deliveries }

theorem sent_sending (channel other : Channel) (deliveries : List Delivery) :
    (sending channel deliveries).sent other = if other = channel then deliveries else [] := by
  cases channel <;> cases other <;> rfl

/-- A delivery reaches a topic that is open and no other, and a closed topic refuses it. -/
theorem send_cases (channel : Channel) (delivery : Delivery) (s : Service) :
    ((s.topics.get channel).isOpen = true ∧ ∃ t, send channel delivery s = (.ok (), t) ∧
      (sending channel [delivery]).Leads s t) ∨
    ((s.topics.get channel).isOpen = false ∧ send channel delivery s = (.error channel, s)) := by
  cases opened : (s.topics.get channel).isOpen with
  | false =>
      refine .inr ⟨rfl, ?_⟩
      simp only [send, Topic.send?, opened]
      rfl
  | true =>
      obtain ⟨topic, sent⟩ : ∃ topic, (s.topics.get channel).send? delivery = some topic := by
        simp only [Topic.send?, opened, if_true, Option.some.injEq, exists_eq']
      refine .inl ⟨rfl, { s with topics := s.topics.set channel topic }, ?_, ?_⟩
      · simp only [send, sent]
      · exact {
          store := by cases channel <;> rfl
          saved := by cases channel <;> exact (List.append_nil _).symm
          topics := by
            intro other
            rw [sent_sending, Topics.get_set]
            split
            · subst other
              simp [Topic.sendAll, sent]
            · rfl
          readings := by cases channel <;> rfl
          agenda := rfl
          now := rfl
          log := List.prefix_refl _ }

theorem publish_cases (channel : Channel) (payload : String) (s : Service) :
    ((s.topics.get channel).isOpen = true ∧ ∃ t, publish channel payload s = (.ok (), t) ∧
      (sending channel [.first payload]).Leads s t) ∨
    ((s.topics.get channel).isOpen = false ∧ publish channel payload s = (.error channel, s)) :=
  send_cases channel (.first payload) s

end Dossier.Service
