import Dossier.Proofs.Row.NormalForm
import Mathlib

/-! # Announcements of results

An execution announces nothing but the one row that it has saved, and the row is what a processor answered, under
the id that the processor goes by. Main statements: `execute_announces` and `Row.normal_form`.
-/

namespace Dossier

/-- What is told of a result that has been announced. -/
def Row.published (row : Row) : LogEntry :=
  ⟨.info, "Processing result published",
    [("doc_id", row.documentId.text), ("processor_id", row.processorId),
      ("status", row.status.text)]⟩

theorem Program.announcement_of_read {payload : String} {row : Row} (read : Row.read payload = .ok row) :
    announcement payload = row.published := by
  rw [announcement, read]
  rfl

theorem Endpoint.answer_reads {e : Endpoint} {documentId : Uuid} {exchange : Http.Exchange} {row : Row}
    (h : e.answer documentId exchange = .ok row) : ∃ text, Row.read text = .ok row := by
  cases exchange with
  | unreachable => cases h
  | answered response =>
      simp only [answer, readAnswer] at h
      split at h
      · cases h
      · split at h
        · rename_i found
          split at h
          · cases h
            obtain ⟨bytes, -, read⟩ := Option.map_eq_some_iff.mp found
            exact ⟨_, Row.read_of_readBytes read⟩
          · cases h
        · cases h

namespace Service

variable {π : Type} {c : Collaborators π} {documentId : Uuid} {processorId : String} {s : Service}
  {outcome : Except ProcessingFailure Row} {effect : Effect}

/-- Whether an effect announces nothing, or just the row that it saves, which is then the outcome: an answer under
another id of a processor. -/
def Announces (answer : Except ProcessorFailure Row) (outcome : Except ProcessingFailure Row)
    (e : Effect) : Prop :=
  e.completions = [] ∨ ∃ answered processorId row, answer = .ok answered ∧
    row = { answered with processorId } ∧ outcome = .ok row ∧ e.rows = [row] ∧
    e.completions = [.first row.text]

theorem Course.announces {finding : Finding} {answer : Except ProcessorFailure Row}
    (course : Course c documentId processorId s finding outcome effect)
    (said : ∀ answered, finding = .complete answered → answer = .ok answered) :
    Announces answer outcome effect := by
  cases course with
  | announced stamped taken opened =>
      exact .inr ⟨_, processorId, _, said _ rfl, stamped, rfl, rfl, rfl⟩
  | unannounced | unsaved | recorded | unrecorded | postponed => exact .inl rfl

theorem settle_announces (c : Collaborators π) (documentId : Uuid) (processorId : String)
    (processor : Processor π) (answer : Except ProcessorFailure Row) (s : Service) :
    ∃ outcome effect t, settle c documentId processorId processor answer s = (outcome, t) ∧
      effect.Leads s t ∧ Announces answer outcome effect := by
  have pursued {finding : Finding} {id : String} {attempt : Attempt ProcessingFailure Row}
      (pursues : Pursues c documentId id s finding attempt)
      (said : ∀ answered, finding = .complete answered → answer = .ok answered) :
      ∃ outcome effect t, attempt s = (outcome, t) ∧ effect.Leads s t ∧
        Announces answer outcome effect := by
    obtain ⟨outcome, effect, t, ends, course, leads⟩ := pursues
    exact ⟨outcome, effect, t, ends, leads, course.announces said⟩
  cases answer with
  | error failure => exact ⟨_, .nothing, _, rfl, leads_log _, .inl rfl⟩
  | ok row =>
      simp only [settle, Procedure.settle]
      cases row.status with
      | complete =>
          refine pursued (pursues_complete c documentId processor.id s processor rfl row) ?_
          intro answered same
          cases same
          rfl
      | unprocessable =>
          exact pursued (pursues_hopeless c documentId processorId s _ _ _ _ _) fun _ same => by cases same
      | missingDependency => exact ⟨_, .nothing, _, rfl, leads_log _, .inl rfl⟩
      | pending | other => exact ⟨_, .nothing, s, rfl, .refl s, .inl rfl⟩

/-- Whatever stands in the registry, an execution announces at most the row that it has saved. -/
theorem execute_announces (c : Collaborators π) (answer : π → Uuid → Except ProcessorFailure Row)
    (documentId : Uuid) (processorId : String) (s : Service) :
    ∃ outcome effect t, execute c answer documentId processorId s = (outcome, t) ∧
      effect.Leads s t ∧ (effect.completions = [] ∨
        ∃ duty, Announces (answer duty documentId) outcome effect) := by
  rw [execute_eq]
  cases c.registry.find? processorId with
  | none =>
      obtain ⟨outcome, effect, t, ends, course, leads⟩ := pursues_refuse c documentId processorId s
      refine ⟨outcome, effect, t, ends, leads, .inl ?_⟩
      cases course with
      | recorded | unrecorded => rfl
  | some processor =>
      obtain ⟨outcome, effect, t, ends, leads, announces⟩ := settle_announces c documentId processorId
        processor (answer processor.duty documentId) s
      exact ⟨outcome, effect, t, ends, leads, .inr ⟨processor.duty, announces⟩⟩

end Service

namespace Row

open Service

/-- A row that is read has a normal form: its text is read as the row, whose text is the same again. So is the
announcement of a result read as the row that was saved, and told as such. Whole numbers of 64 bits do no harm to
that, nor do any others that their own texts are read as. -/
theorem normal_form :
    (∀ text row, read text = .ok row → row.result.toJson.Every Json.KeepsNumber →
      ∃ again, read row.text = .ok again ∧ again = row ∧ again.text = row.text) ∧
    (∀ n : Int, -0x8000000000000000 ≤ n → n ≤ 0xFFFFFFFFFFFFFFFF →
      (Json.number (.whole n)).Every Json.KeepsNumber) ∧
    ∀ (c : Collaborators Endpoint) (exchange : Endpoint → Uuid → Http.Exchange) documentId
      processorId s, ∃ outcome, ∃ effect : Effect, ∃ t,
      execute c (fun e documentId => e.answer documentId (exchange e documentId)) documentId
        processorId s = (outcome, t) ∧
      effect.Leads s t ∧
      ∀ d ∈ effect.completions, ∃ row, outcome = .ok row ∧ effect.rows = [row] ∧
        d = .first row.text ∧
        (∃ text answered processorId, read text = .ok answered ∧ row = { answered with processorId }) ∧
        (row.result.toJson.Every Json.KeepsNumber →
          read d.payload = .ok row ∧ Program.announcement d.payload = row.published) := by
  refine ⟨?_, ?_, ?_⟩
  · intro text row h numbers
    exact ⟨row, read_text (normal_of_read h numbers), rfl, rfl⟩
  · exact fun n least most => Json.readsBack_whole least most
  · intro c exchange documentId processorId s
    obtain ⟨outcome, effect, t, ends, leads, announces⟩ := execute_announces c
      (fun e documentId => e.answer documentId (exchange e documentId)) documentId processorId s
    refine ⟨outcome, effect, t, ends, leads, fun d member => ?_⟩
    obtain silent | ⟨duty, silent | ⟨answered, id, row, answer, stamped, done, rows, sent⟩⟩ := announces
    · rw [silent] at member
      cases member
    · rw [silent] at member
      cases member
    · rw [sent, List.mem_singleton] at member
      subst member
      obtain ⟨text, h⟩ := Endpoint.answer_reads answer
      refine ⟨row, done, rows, rfl, ⟨text, answered, id, h, stamped⟩, fun numbers => ?_⟩
      have same : row.result = answered.result := by rw [stamped]
      have normal : answered.Normal := normal_of_read h (same ▸ numbers)
      have stays : row.Normal := stamped ▸ { normal with }
      have back : read row.text = .ok row := read_text stays
      exact ⟨back, Program.announcement_of_read back⟩

/-- A row in an array, with an id in braces, a leap second and a year with a sign. -/
def oddText : String :=
  "[\"\x7b0B9A6F1C-32D1-4C58-9F7E-1D2A3B4C5D6E\x7d\",\"pages\",\"ODD\",\x7b\"n\":1\x7d," ++
    "\" +12016-12-31t23:59:60Z \"]"

def oddRow : Row where
  documentId := ⟨0x0b9a6f1c32d14c589f7e1d2a3b4c5d6e#128⟩
  processorId := "pages"
  status := .other "ODD"
  result := ⟨[("n", .number (.whole 1))]⟩
  timestamp := ⟨⟨12016, 12, 31⟩, 86399, 1000000000⟩

theorem read_oddText : read oddText = .ok oddRow := by cbv

theorem oddRow_normal_form :
    ∃ again, read oddRow.text = .ok again ∧ again = oddRow ∧ again.text = oddRow.text := by
  have numbers : oddRow.result.toJson.Every Json.KeepsNumber :=
    ⟨trivial, Json.readsBack_whole (by decide) (by decide), trivial⟩
  exact normal_form.1 oddText oddRow read_oddText numbers

end Row

end Dossier
