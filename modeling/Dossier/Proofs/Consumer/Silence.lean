import Dossier.Proofs.Consumer.Clearance

/-! # What is told

Nobody reads what a service has told. So affairs that differ in nothing else can go on alike: whatever can happen
next in the one can happen in the other, and they differ in nothing else again. Main statements: `Act.alike` and
`Affairs.Alike.step`.
-/

namespace Dossier.Service

variable {π α : Type} {s t : Service}

/-- Whether a service differs from another in nothing but what it has told. -/
def Alike (s t : Service) : Prop :=
  ∃ told, t = { s with log := told }

theorem Alike.refl (s : Service) : s.Alike s :=
  ⟨s.log, rfl⟩

theorem Alike.symm (alike : s.Alike t) : t.Alike s := by
  obtain ⟨told, rfl⟩ := alike
  exact ⟨s.log, rfl⟩

/-- It makes no difference that a service tells more. -/
theorem Alike.tell (alike : s.Alike t) (told : Log) : ({ s with log := told } : Service).Alike t := by
  obtain ⟨other, rfl⟩ := alike
  exact ⟨other, rfl⟩

theorem Alike.topics (alike : s.Alike t) : t.topics = s.topics := by
  obtain ⟨told, rfl⟩ := alike
  rfl

theorem Alike.agenda (alike : s.Alike t) : t.agenda = s.agenda := by
  obtain ⟨told, rfl⟩ := alike
  rfl

theorem send_alike (alike : s.Alike t) (channel : Channel) (d : Delivery) :
    (send channel d t).1 = (send channel d s).1 ∧ (send channel d s).2.Alike (send channel d t).2 := by
  obtain ⟨told, rfl⟩ := alike
  simp only [send]
  cases (s.topics.get channel).send? d with
  | none => exact ⟨rfl, told, rfl⟩
  | some topic => exact ⟨rfl, told, rfl⟩

theorem save_alike (alike : s.Alike t) (c : Collaborators π) (row : Row) :
    (save c row t).1 = (save c row s).1 ∧ (save c row s).2.Alike (save c row t).2 := by
  obtain ⟨told, rfl⟩ := alike
  simp only [save]
  cases c.saveFault s.saves with
  | some failure => exact ⟨rfl, told, rfl⟩
  | none => cases s.store.save row with
    | error failure => exact ⟨rfl, told, rfl⟩
    | ok store => exact ⟨rfl, told, rfl⟩

theorem ask_alike (alike : s.Alike t) (c : Collaborators π) (question : Store → Except DatabaseFailure α) :
    (ask c question t).1 = (ask c question s).1 ∧ (ask c question s).2.Alike (ask c question t).2 := by
  obtain ⟨told, rfl⟩ := alike
  simp only [ask]
  cases c.findFault s.finds with
  | some failure => exact ⟨rfl, told, rfl⟩
  | none => exact ⟨rfl, told, rfl⟩

theorem Deed.alike (deed : Deed π α) (alike : s.Alike t) :
    (deed.perform t).1 = (deed.perform s).1 ∧ (deed.perform s).2.Alike (deed.perform t).2 := by
  cases deed with
  | tell level message fields =>
      obtain ⟨told, rfl⟩ := alike
      exact ⟨rfl, _, rfl⟩
  | readClock c =>
      obtain ⟨told, rfl⟩ := alike
      exact ⟨rfl, told, rfl⟩
  | save c row => exact save_alike alike c row
  | ask c question => exact ask_alike alike c question
  | publish channel payload => exact send_alike alike channel (.first payload)

theorem Act.alike (act : Act π α) (o : Others π) (alike : s.Alike t) :
    (act.perform o t).1 = (act.perform o s).1 ∧ (act.perform o s).2.Alike (act.perform o t).2 := by
  cases act with
  | deed single => exact single.alike alike
  | look | call => exact ⟨rfl, alike⟩
  | putOff channel d delay limit =>
      obtain ⟨told, rfl⟩ := alike
      rcases Nat.lt_or_ge d.attempt limit with few | many
      · simp only [perform, putOff_of_lt few]
        exact ⟨trivial, told, rfl⟩
      · simp only [perform, putOff_of_le many]
        exact ⟨trivial, _, rfl⟩

theorem resend_alike (alike : s.Alike t) (r : Redelivery) : (resend r s).2.Alike (resend r t).2 := by
  obtain ⟨told, rfl⟩ := alike
  simp only [resend, send, bind, StateT.bind, Service.tell, ExceptT.run]
  cases (s.topics.get r.channel).send? r.delivery with
  | none => exact ⟨_, rfl⟩
  | some topic => exact ⟨_, rfl⟩

namespace Affairs

/-- Whether affairs differ from others in nothing but what their service has told. -/
structure Alike (x y : Affairs π) : Prop where
  service : x.service.Alike y.service
  notes : y.notes = x.notes
  works : y.works = x.works

variable {x y x' : Affairs π} {c : Collaborators π} {q : QueueSettings}

theorem Alike.refl (x : Affairs π) : x.Alike x :=
  ⟨.refl x.service, rfl, rfl⟩

theorem Alike.symm (alike : x.Alike y) : y.Alike x :=
  ⟨alike.service.symm, alike.notes.symm, alike.works.symm⟩

theorem Alike.next (alike : x.Alike y) {t u : Service} (further : t.Alike u) (lookups : List Lookup)
    (works : List ((α : Type) × Work π α)) : (x.next t lookups works).Alike (y.next u lookups works) where
  service := further
  notes := by simp only [Affairs.next, alike.notes, alike.service.topics, further.topics]
  works := rfl

/-- Whatever can happen next can happen in affairs that are alike. -/
theorem Alike.step (alike : x.Alike y) (step : Step c q x x') : ∃ y', Step c q y y' ∧ x'.Alike y' := by
  have works := alike.works
  cases step with
  | line text =>
      refine ⟨_, .line y text, ?_⟩
      rw [works]
      exact alike.next alike.service [] _
  | @event d topic taken =>
      rw [← alike.service.topics] at taken
      refine ⟨_, .event taken, ?_⟩
      rw [works]
      refine alike.next ?_ [] _
      obtain ⟨told, same⟩ := alike.service
      exact ⟨told, by rw [same]⟩
  | @request d topic taken =>
      rw [← alike.service.topics] at taken
      refine ⟨_, .request taken, ?_⟩
      rw [works]
      refine alike.next ?_ [] _
      obtain ⟨told, same⟩ := alike.service
      exact ⟨told, by rw [same]⟩
  | @proceed before after β γ act rest held o =>
      obtain ⟨answer, further⟩ := act.alike o alike.service
      refine ⟨_, .proceed (works.trans held) o, ?_⟩
      rw [answer]
      exact alike.next further _ _
  | @resend before after r due now =>
      rw [← alike.service.agenda] at due
      refine ⟨_, .resend due now, ?_⟩
      rw [works]
      refine alike.next (resend_alike ?_ r) [] _
      obtain ⟨told, same⟩ := alike.service
      exact ⟨told, by rw [same]⟩
  | close channel =>
      refine ⟨_, .close y channel, ?_⟩
      rw [works]
      refine alike.next ?_ [] _
      obtain ⟨told, same⟩ := alike.service
      exact ⟨told, by rw [same]⟩

end Affairs

end Dossier.Service
