import Dossier.Proofs.Service.Step
import Dossier.Proofs.Store.Contents
import Dossier.Service.Results

/-! # What a question finds

A question that reaches the store is answered from the rows that the store holds, as it gives them back. Main
statement: `results_of_holds`.
-/

namespace Dossier.Service

variable {π α : Type} {c : Collaborators π} {s : Service} {rows : List Row}

theorem holds_saveAll {store after : Store} {rows more : List Row} (holds : store.Holds rows)
    (h : store.saveAll more = .ok after) : after.Holds (rows ++ more) := by
  induction more generalizing store rows with
  | nil =>
      cases h
      rwa [List.append_nil]
  | cons row more ih =>
      obtain ⟨next, saved, held, -⟩ := holds.save row
      rw [Store.saveAll, List.foldlM_cons, saved] at h
      have step := ih held h
      rwa [List.append_assoc] at step

/-- A question changes nothing, whether it is answered or not. -/
theorem ask_cases (c : Collaborators π) (question : Store → Except DatabaseFailure α) (s : Service) :
    ∃ outcome, ask c question s = (outcome, { s with finds := s.finds + 1 }) := by
  simp only [ask]
  split
  · exact ⟨_, rfl⟩
  · exact ⟨_, rfl⟩

theorem ask_of_answers (answers : c.findFault s.finds = none)
    (question : Store → Except DatabaseFailure α) :
    ask c question s = ((question s.store).mapError .database, { s with finds := s.finds + 1 }) := by
  simp only [ask, answers]

/-- The rows of a document are found if the store gives back each of them. -/
theorem results_of_holds (holds : s.store.Holds rows) (answers : c.findFault s.finds = none)
    (documentId : Uuid) :
    results c documentId s =
      (((rows.filter (·.documentId == documentId)).mapM s.store.givenBack |>.mapError .database).map
        Row.sortByTime, { s with finds := s.finds + 1 }) := by
  have asked := ask_of_answers answers (·.find documentId)
  rw [results, ← holds.find documentId]
  cases answered : s.store.find documentId with
  | error failure =>
      rw [answered] at asked
      exact bind_error asked
  | ok found =>
      rw [answered] at asked
      exact bind_ok asked

end Dossier.Service
