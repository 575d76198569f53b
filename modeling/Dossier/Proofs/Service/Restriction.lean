import Dossier.Proofs.Row.History
import Dossier.Proofs.Service.Latest
import Dossier.Proofs.Store.Known
import Mathlib

/-! # Questions for some processors

A question for the rows of some processors finds those of all rows of the document that are of these processors, in
memory and in a table. So it goes with the list of all rows, the order and the repetitions of the processors do not
matter, and two questions may be asked as one. Main statement: `restricted_listing`.
-/

namespace Dossier

namespace Store

variable {documentId : Uuid} {processorIds : List String}

/-- Records may be chosen before they are read or after. -/
theorem rows_filter {records : List Record} {rows chosen : List Row} (read : Table.rows records = .ok rows)
    (some : Table.rows (records.filter fun record =>
      Table.holdsOneOf processorIds record.processorId) = .ok chosen) :
    chosen = rows.filter fun row => processorIds.contains row.processorId := by
  rw [Table.rows, mapError_eq_ok, mapM_eq_ok] at read some
  induction read generalizing chosen with
  | nil =>
      cases some
      rfl
  | @cons record row records rows first others ih =>
      have same : Table.holdsOneOf processorIds record.processorId =
          processorIds.contains row.processorId := by
        rw [Record.processorId_of_row first]
        rfl
      rw [List.filter_cons, same] at some
      rw [List.filter_cons]
      split at some
      · rename_i listed
        rw [if_pos listed]
        obtain ⟨back, backs, now, later, rfl⟩ := List.forall₂_cons_left_iff.mp some
        obtain rfl : row = back := Except.ok.inj (first.symm.trans now)
        rw [ih later]
      · rename_i unlisted
        rw [if_neg unlisted]
        exact ih some

/-- What is found for some processors is what is found for all, as far as it is of them. -/
theorem findFrom_eq_filter {s : Store} {all some : List Row} (found : s.find documentId = .ok all)
    (chosen : s.findFrom documentId processorIds = .ok some) :
    some = all.filter fun row => processorIds.contains row.processorId := by
  cases s with
  | memory rows =>
      cases found
      cases chosen
      simp only [List.filter_filter, Bool.and_comm]
  | table t =>
      obtain ⟨records⟩ := t
      simp only [findFrom, Table.findFrom] at chosen
      split at chosen
      · rename_i none
        cases chosen
        simp [List.isEmpty_iff.mp none]
      · split at chosen
        · cases chosen
        · cases records with
          | none => cases found
          | some records =>
              refine rows_filter found ?_
              rw [List.filter_filter]
              rwa [List.filter_congr fun record _ => Bool.and_comm _ _]

end Store

namespace Service

variable {π : Type} {documentId : Uuid} {store : Store}

/-- Whether a question is answered with some rows by a service that has a store. -/
def Answers (store : Store) (question : Collaborators π → Attempt ServiceFailure (List Row))
    (rows : List Row) : Prop :=
  ∃ c s, s.store = store ∧ (question c s).1 = .ok rows

theorem ask_ok {α : Type} {c : Collaborators π} {question : Store → Except DatabaseFailure α} {s : Service}
    {a : α} (answered : (ask c question s).1 = .ok a) : question s.store = .ok a := by
  simp only [ask] at answered
  split at answered
  · cases answered
  · exact mapError_eq_ok.mp answered

theorem find_of_results {full : List Row}
    (listed : Answers (π := π) store (results · documentId) full) :
    ∃ all, store.find documentId = .ok all ∧ full = Row.sortByTime all := by
  obtain ⟨c, s, rfl, listed⟩ := listed
  cases asked : (ask c (·.find documentId) s).1 with
  | error failure =>
      have failed : (results c documentId s).1 = .error failure :=
        congrArg Prod.fst (bind_error (Prod.ext asked rfl))
      rw [failed] at listed
      cases listed
  | ok all =>
      have sorted : (results c documentId s).1 = .ok (Row.sortByTime all) :=
        congrArg Prod.fst (bind_ok (Prod.ext asked rfl))
      rw [sorted] at listed
      exact ⟨all, ask_ok asked, (Except.ok.inj listed).symm⟩

theorem findFrom_of_resultsFrom {processorIds : List String} {some : List Row}
    (answered : Answers (π := π) store (resultsFrom · documentId processorIds) some) :
    store.findFrom documentId processorIds = .ok some := by
  obtain ⟨c, s, rfl, answered⟩ := answered
  exact ask_ok answered

open scoped Classical in
/-- The answer for some processors, once it is sorted, is what the list of all rows has of them. It depends on
nothing but which processors they are. The answer for two lists of processors at once has each row as often as that
one of their answers that has it. -/
theorem restricted_listing {full some : List Row} {processorIds : List String}
    (listed : Answers (π := π) store (results · documentId) full)
    (answered : Answers (π := π) store (resultsFrom · documentId processorIds) some) :
    Row.sortByTime some = full.filter (fun row => processorIds.contains row.processorId) ∧
    (∀ others again, (∀ id, id ∈ others ↔ id ∈ processorIds) →
      Answers (π := π) store (resultsFrom · documentId others) again → again = some) ∧
    ∀ others further both, Answers (π := π) store (resultsFrom · documentId others) further →
      Answers (π := π) store (resultsFrom · documentId (processorIds ++ others)) both →
        (∀ row, row ∈ both ↔ row ∈ some ∨ row ∈ further) ∧
        ∀ row, both.count row = max (some.count row) (further.count row) := by
  obtain ⟨all, found, rfl⟩ := find_of_results listed
  have chosen {ids : List String} {rows : List Row}
      (answered : Answers (π := π) store (resultsFrom · documentId ids) rows) :
      rows = all.filter fun row => ids.contains row.processorId :=
    Store.findFrom_eq_filter found (findFrom_of_resultsFrom answered)
  have counted (ids : List String) (row : Row) :
      (all.filter fun other => ids.contains other.processorId).count row =
        if row.processorId ∈ ids then all.count row else 0 := by
    split
    · rename_i listed
      exact List.count_filter (by simpa using listed)
    · rename_i unlisted
      exact List.count_eq_zero.mpr (by simp [unlisted])
  obtain rfl := chosen answered
  refine ⟨(Row.filter_sortByTime _ all).symm, ?_, ?_⟩
  · intro others again same answered
    rw [chosen answered]
    refine List.filter_congr fun row _ => ?_
    rw [Bool.eq_iff_iff, List.contains_iff_mem, List.contains_iff_mem]
    exact same row.processorId
  · intro others further both answered together
    obtain rfl := chosen answered
    obtain rfl := chosen together
    refine ⟨fun row => ?_, fun row => ?_⟩
    · simp only [List.mem_filter, List.contains_iff_mem, List.mem_append, ← and_or_left]
    · rw [counted, counted, counted]
      simp only [List.mem_append]
      split <;> split <;> split <;> simp_all

/-- A row of a request at some second of a day. -/
def requestAt (processorId : String) (second : Number.Bounded 0 86399) : Row :=
  .pending ⟨1⟩ processorId ⟨⟨2025, 1, 1⟩, second, 0⟩

theorem storable_requestAt (processorId : String) (second : Number.Bounded 0 86399) :
    (requestAt processorId second).Storable where
  toSound := Row.sound_pending ..
  numbers := ⟨trivial, trivial⟩

/-- A table is asked for a processor twice and for one without rows, and for another one along with them. -/
theorem restricted_table :
    let rows := [requestAt "pages" 1, requestAt "dates" 0, requestAt "pages" 0]
    let store := Store.tableOf rows
    Answers (π := Endpoint) store (results · ⟨1⟩)
      [requestAt "dates" 0, requestAt "pages" 0, requestAt "pages" 1] ∧
    Answers (π := Endpoint) store (resultsFrom · ⟨1⟩ ["pages", "none", "pages"])
      [requestAt "pages" 1, requestAt "pages" 0] ∧
    Row.sortByTime [requestAt "pages" 1, requestAt "pages" 0] = [requestAt "pages" 0, requestAt "pages" 1] ∧
    (∀ again, Answers (π := Endpoint) store (resultsFrom · ⟨1⟩ ["none", "pages"]) again →
      again = [requestAt "pages" 1, requestAt "pages" 0]) ∧
    Answers (π := Endpoint) store (resultsFrom · ⟨1⟩ ["pages", "none", "pages", "dates", "pages"]) rows ∧
    ∀ row, row ∈ rows ↔ row ∈ [requestAt "pages" 1, requestAt "pages" 0] ∨ row ∈ rows := by
  intro rows store
  have storable : ∀ row ∈ rows, row.Storable := by
    simp only [rows, List.forall_mem_cons]
    exact ⟨storable_requestAt .., storable_requestAt .., storable_requestAt .., List.forall_mem_nil _⟩
  have plain : ∀ row ∈ rows, row.timestamp.HasPlainYear := by
    simp only [rows, List.forall_mem_cons]
    exact ⟨by decide, by decide, by decide, List.forall_mem_nil _⟩
  let c : Collaborators Endpoint := .reliable [] (fun _ => .ok .ready) dayClock
  have read (some : List Row) (among : ∀ row ∈ some, row ∈ rows) :
      Table.rows (some.map Record.ofRow) = .ok some :=
    (Store.rows_map_ofRow fun row member => storable row (among row member)).1 fun row member =>
      plain row (among row member)
  have listed : Answers (π := Endpoint) store (results · ⟨1⟩) (Row.sortByTime rows) := by
    have asked := ask_of_answers (c := c) (s := { store }) rfl (·.find ⟨1⟩)
    simp only [store, Store.find_tableOf] at asked
    rw [read _ fun row member => (List.mem_filter.mp member).1] at asked
    exact ⟨c, { store }, rfl, congrArg Prod.fst (bind_ok asked)⟩
  have chosen (ids : List String) (few : ids.length ≤ Table.mostProcessors) :
      Answers (π := Endpoint) store (resultsFrom · ⟨1⟩ ids)
        (rows.filter fun row => row.documentId == ⟨1⟩ && ids.contains row.processorId) := by
    have asked := ask_of_answers (c := c) (s := { store }) rfl (·.findFrom ⟨1⟩ ids)
    simp only [store, Store.findFrom_tableOf rows ⟨1⟩ few] at asked
    rw [read _ fun row member => (List.mem_filter.mp member).1] at asked
    exact ⟨c, { store }, rfl, congrArg Prod.fst asked⟩
  have sorted : Row.sortByTime rows =
      [requestAt "dates" 0, requestAt "pages" 0, requestAt "pages" 1] := by cbv
  rw [sorted] at listed
  have pages := chosen ["pages", "none", "pages"] (by decide)
  have both := chosen (["pages", "none", "pages"] ++ ["dates", "pages"]) (by decide)
  obtain ⟨agrees, same, union⟩ := restricted_listing listed pages
  obtain ⟨members, -⟩ := union ["dates", "pages"] _ _ (chosen ["dates", "pages"] (by decide)) both
  exact ⟨listed, pages, agrees, fun again => same ["none", "pages"] again (by simp), both, members⟩

end Service

end Dossier
