import Dossier.Proofs.Json.Quotation
import Dossier.Proofs.Service.Deeds
import Dossier.Proofs.Service.Endpoint
import Dossier.Proofs.Service.Results
import Dossier.Proofs.Store.Documents

/-! # What a service has of a document

The rows and messages of one document, as far as they can be told from those of others, and whether messages are
received at all. A task that minds one document finds its way by the share of that document and changes no other.
Main statements: `Task.run_other` and `Task.run_own`.
-/

namespace Dossier

open Json

/-- The id of its document stands at the beginning of the text of a row. -/
theorem Row.text_begins (row : Row) : ∃ rest, row.text = String.ofList
    ('{' :: (printString "documentId" ++ ':' :: (printString row.documentId.text ++ rest))) := by
  refine ⟨',' :: printMembers row.members.tail, ?_⟩
  simp only [text, Json.text, members, print, printMembers, List.tail_cons, List.append_assoc,
    List.cons_append]

/-- So it can be told from the text. -/
theorem Row.documentId_of_text {a b : Row} (same : a.text = b.text) : a.documentId = b.documentId := by
  obtain ⟨rest, first⟩ := a.text_begins
  obtain ⟨rest', second⟩ := b.text_begins
  rw [first, second, String.ofList_inj, List.cons.injEq, List.append_cancel_left_eq, List.cons.injEq,
    printString_append, printString_append, List.cons.injEq] at same
  obtain ⟨stop, read⟩ := readQuotation_print a.documentId.text .start rest
  obtain ⟨stop', read'⟩ := readQuotation_print b.documentId.text .start rest'
  rw [same.2.2.2, read'] at read
  exact Uuid.text_injective (Except.ok.inj (Prod.mk.inj read).1).symm

theorem Request.documentId_of_text {a b : Request} (same : a.text = b.text) :
    a.documentId = b.documentId := by
  have read := a.read_text
  rw [same, b.read_text] at read
  exact congrArg Request.documentId (Except.ok.inj read).symm

/-- Whether a payload is a message about a document: a request for it, or the announcement of a result. -/
def Channel.Names (documentId : Uuid) (payload : String) : Channel → Prop
  | .requests => ∃ processorId, payload = Request.text ⟨⟨processorId⟩, documentId⟩
  | .completions => ∃ row : Row, row.documentId = documentId ∧ payload = row.text
  | .events => False

theorem Channel.Names.unique {channel : Channel} {documentId other : Uuid} {payload : String}
    (names : channel.Names documentId payload) (names' : channel.Names other payload) :
    documentId = other := by
  cases channel with
  | requests =>
      obtain ⟨processorId, rfl⟩ := names
      obtain ⟨processorId', same⟩ := names'
      exact Request.documentId_of_text same
  | completions =>
      obtain ⟨row, rfl, rfl⟩ := names
      obtain ⟨row', rfl, same⟩ := names'
      exact Row.documentId_of_text same
  | events => exact names.elim

namespace Service

variable {π ε ε' α β : Type} {documentId other : Uuid} {s t : Service}

open Classical in
/-- The messages about a document that were sent on a topic. -/
noncomputable def messagesOf (documentId : Uuid) (channel : Channel) (s : Service) : List Delivery :=
  (s.topics.get channel).sent.filter fun d => channel.Names documentId d.payload

/-- What a service has of a document. -/
structure Share where
  store : Store
  messages : Channel → List Delivery
  /-- Which topics have a receiver. -/
  received : Channel → Bool

noncomputable def share (documentId : Uuid) (s : Service) : Share where
  store := s.store.of documentId
  messages channel := messagesOf documentId channel s
  received channel := (s.topics.get channel).isOpen

/-- Whether each receiver stays for good, or is gone for good. -/
def Lasting (s : Service) : Prop :=
  ∀ channel, (s.topics.get channel).lifetime = none ∨ (s.topics.get channel).lifetime = some 0

/-- The service after a message was sent on a topic that has a receiver for good. -/
def sent (channel : Channel) (payload : String) (s : Service) : Service :=
  { s with topics := s.topics.set channel { s.topics.get channel with
      sent := (s.topics.get channel).sent ++ [.first payload] } }

theorem publish_of_lasting (lasting : s.Lasting) (channel : Channel) (payload : String) :
    publish channel payload s = if (s.topics.get channel).isOpen then (.ok (), s.sent channel payload)
      else (.error channel, s) := by
  rcases lasting channel with endless | gone
  · simp [publish, send, Topic.send?, Topic.isOpen, endless, sent]
  · simp [publish, send, Topic.send?, Topic.isOpen, gone]

theorem lasting_sent (lasting : s.Lasting) (channel : Channel) (payload : String) :
    (s.sent channel payload).Lasting := by
  intro other
  rw [sent, Topics.get_set]
  split
  · exact lasting channel
  · exact lasting other

theorem received_sent (channel other : Channel) (payload : String) :
    ((s.sent channel payload).topics.get other).isOpen = (s.topics.get other).isOpen := by
  rw [sent, Topics.get_set]
  split
  · subst other
    rfl
  · rfl

theorem messagesOf_sent (channel other : Channel) (payload : String) :
    messagesOf documentId other (s.sent channel payload) = messagesOf documentId other s ++
      open Classical in if other = channel ∧ channel.Names documentId payload then [.first payload] else [] := by
  classical
  rw [messagesOf, messagesOf, sent, Topics.get_set]
  by_cases same : other = channel
  · subst other
    by_cases names : channel.Names documentId payload
    · simp [names, Delivery.first]
    · simp [names, Delivery.first]
  · simp [same]

/-- Whether a deed minds one document, by collaborators that do not fail. -/
def Deed.Minds (documentId : Uuid) : Deed π α → Prop
  | .tell _ _ _ | .readClock _ => True
  | .save c row => row.documentId = documentId ∧ ∀ n, c.saveFault n = none
  | .ask c question =>
      (∀ store : Store, question (store.of documentId) = question store) ∧ ∀ n, c.findFault n = none
  | .publish channel payload => channel.Names documentId payload

theorem save_of_reliable {c : Collaborators π} (reliable : ∀ n, c.saveFault n = none) (row : Row)
    (s : Service) : save c row s = match s.store.save row with
      | .error failure => (.error (.database failure), { s with saves := s.saves + 1 })
      | .ok store => (.ok (), { s with
          saves := s.saves + 1, store, saved := s.saved ++ [row] }) := by
  cases kept : s.store.save row with
  | error failure => simp only [save, reliable, kept]
  | ok store => simp only [save, reliable, kept]

namespace Deed

variable {deed : Deed π α}

theorem lasting (deed : Deed π α) (lasting : s.Lasting) : (deed.perform s).2.Lasting := by
  cases deed with
  | tell | readClock => exact lasting
  | save c row =>
      have kept : (Service.save c row s).2.topics = s.topics := by
        simp only [Service.save]
        split
        · rfl
        · split
          · rfl
          · rfl
      intro channel
      rw [perform, ExceptT.run, kept]
      exact lasting channel
  | ask c question =>
      obtain ⟨outcome, asked⟩ := ask_cases c question s
      rw [perform, ExceptT.run, asked]
      exact lasting
  | publish channel payload =>
      rw [perform, ExceptT.run, publish_of_lasting lasting]
      split
      · exact lasting_sent lasting channel payload
      · exact lasting

/-- What is done for one document changes no share of another. -/
theorem share_other (minds : deed.Minds other) (different : other ≠ documentId) (lasting : s.Lasting) :
    share documentId (deed.perform s).2 = share documentId s := by
  cases deed with
  | tell | readClock => rfl
  | save c row =>
      rw [perform, ExceptT.run, save_of_reliable minds.2]
      cases saved : s.store.save row with
      | error failure => rfl
      | ok store =>
          have kept : store.of documentId = s.store.of documentId :=
            Store.of_of_save (minds.1 ▸ different) saved
          simp only [share, kept]
          rfl
  | ask c question =>
      obtain ⟨outcome, asked⟩ := ask_cases c question s
      rw [perform, ExceptT.run, asked]
      rfl
  | publish channel payload =>
      rw [perform, ExceptT.run, publish_of_lasting lasting]
      split
      · simp only [share, messagesOf_sent, received_sent]
        congr 1
        funext topic
        rw [if_neg fun named => different (Channel.Names.unique minds named.2), List.append_nil]
      · rfl

/-- What is done for a document depends on nothing but its share, and the clock. -/
theorem share_own (minds : deed.Minds documentId) (lasting : s.Lasting) (lasting' : t.Lasting)
    (same : share documentId s = share documentId t) (readings : s.readings = t.readings) :
    (deed.perform s).1 = (deed.perform t).1 ∧
      share documentId (deed.perform s).2 = share documentId (deed.perform t).2 ∧
      (deed.perform s).2.readings = (deed.perform t).2.readings := by
  obtain ⟨store, messages, received⟩ := Share.mk.inj same
  cases deed with
  | tell => exact ⟨rfl, same, readings⟩
  | readClock c =>
      exact ⟨congrArg c.clock readings, same, congrArg (· + 1) readings⟩
  | save c row =>
      have saved : (s.store.save row).map (·.of documentId) = (t.store.save row).map (·.of documentId) := by
        rw [← Store.save_of minds.1, ← Store.save_of minds.1, store]
      rw [perform, ExceptT.run, save_of_reliable minds.2, save_of_reliable minds.2]
      cases first : s.store.save row with
      | error failure =>
          cases second : t.store.save row with
          | error failure' =>
              rw [first, second] at saved
              cases saved
              exact ⟨rfl, same, readings⟩
          | ok after' =>
              rw [first, second] at saved
              cases saved
      | ok after =>
          cases second : t.store.save row with
          | error failure' =>
              rw [first, second] at saved
              cases saved
          | ok after' =>
              rw [first, second] at saved
              refine ⟨rfl, ?_, readings⟩
              simp only [share, Except.ok.inj saved]
              exact congrArg₂ (Share.mk _) messages received
  | ask c question =>
      have asked : question s.store = question t.store := by
        rw [← minds.1 s.store, ← minds.1 t.store, store]
      rw [perform, ExceptT.run, ask_of_answers (minds.2 _), ask_of_answers (minds.2 _), asked]
      exact ⟨rfl, same, readings⟩
  | publish channel payload =>
      have opened : (s.topics.get channel).isOpen = (t.topics.get channel).isOpen :=
        congrFun received channel
      rw [perform, ExceptT.run, publish_of_lasting lasting, publish_of_lasting lasting', opened]
      split
      · refine ⟨rfl, ?_, readings⟩
        have before (topic : Channel) : messagesOf documentId topic s = messagesOf documentId topic t :=
          congrFun messages topic
        simp only [share, messagesOf_sent, received_sent, before]
        exact congrArg₂ (fun store received => Share.mk store _ received) store received
      · exact ⟨rfl, same, readings⟩

/-- What operations for a document do minds it, if processors answer for it. -/
theorem For.minds {c : Collaborators π} {said : Row → Prop} (saves : ∀ n, c.saveFault n = none)
    (answers : ∀ n, c.findFault n = none) (apt : ∀ row, said row → row.documentId = documentId)
    (deed : Deed π α) (own : Deed.For c said documentId α deed) : deed.Minds documentId := by
  cases own with
  | tell | readClock => trivial
  | find => exact ⟨Store.find_of documentId, answers⟩
  | findFrom processorIds => exact ⟨Store.findFrom_of documentId processorIds, answers⟩
  | request processorId => exact ⟨processorId, rfl⟩
  | pending | unprocessable => exact ⟨rfl, saves⟩
  | @result answer answered => exact ⟨apt answer answered, saves⟩
  | @announce answer answered processorId => exact ⟨{ answer with processorId }, apt answer answered, rfl⟩

end Deed

namespace Task

/-- Whether all deeds of a task mind one document. -/
def Minds (documentId : Uuid) (task : Task π ε α) : Prop :=
  task.All fun _ deed => deed.Minds documentId

variable {task : Task π ε α}

theorem lasting (task : Task π ε α) (lasting : s.Lasting) : (task.run s).2.Lasting := by
  induction task generalizing s with
  | done outcome => exact lasting
  | doing deed rest ih => exact ih _ (deed.lasting lasting)

/-- A task that minds one document changes no share of another. -/
theorem run_other (minds : task.Minds other) (different : other ≠ documentId) (lasting : s.Lasting) :
    share documentId (task.run s).2 = share documentId s := by
  induction task generalizing s with
  | done outcome => rfl
  | doing deed rest ih =>
      exact (ih _ (minds.2 s) (deed.lasting lasting)).trans (deed.share_other minds.1 different lasting)

/-- A task that minds a document ends alike where the shares of the document are alike. -/
theorem run_own (minds : task.Minds documentId) (lasting : s.Lasting) (lasting' : t.Lasting)
    (same : share documentId s = share documentId t) (readings : s.readings = t.readings) :
    (task.run s).1 = (task.run t).1 ∧
      share documentId (task.run s).2 = share documentId (task.run t).2 := by
  induction task generalizing s t with
  | done outcome => exact ⟨rfl, same⟩
  | doing deed rest ih =>
      obtain ⟨given, alike, read⟩ := deed.share_own minds.1 lasting lasting' same readings
      have step (u : Service) : (doing deed rest).run u = (rest (deed.perform u).1).run (deed.perform u).2 :=
        rfl
      rw [step s, step t, ← given]
      exact ih _ (minds.2 s) (deed.lasting lasting) (deed.lasting lasting') alike read

end Task

end Service

end Dossier
