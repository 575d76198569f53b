import Dossier.Ingress
import Dossier.Proofs.Message.Command
import Dossier.Proofs.Row.Sorting
import Dossier.Proofs.Service.Latest
import Dossier.Proofs.Service.Results
import Mathlib

/-! # What was recorded

A row that comes with a command is taken by a table whatever its year, and a question for its document is
answered from all rows of the document that were ever recorded. So the answer lists the row if the table can
read back each of them, and is an error if there is one that it cannot. Main statement: `recorded_row_listed`.
-/

namespace Dossier

/-- Whether a table reads back a row that was written to it. -/
def Row.ReadsBack (row : Row) : Prop :=
  row.timestamp.HasPlainYear ∧ ∃ result, Payload.read row.result.text = .ok result

/-- The row that a command is to record. -/
def Command.row? : Command → Option Row
  | .record row => some row
  | .initiate _ | .results _ _ => none

namespace Ingress

open Service

/-- The row that a line is to record. -/
def recorded? (line : String) : Option Row :=
  (Command.read line).toOption.bind Command.row?

/-- The service after it has answered some lines. -/
def answerAll {π : Type} (c : Collaborators π) (s : Service) (lines : List String) : Service :=
  lines.foldl (fun s line => (answer c line s).2) s

variable {π : Type} {c : Collaborators π} {s t : Service} {rows : List Row} {line : String}
  {command : Command}

theorem answer_of_ok {reply : Reply} (read : Command.read line = .ok command)
    (done : execute c command s = (.ok reply, t)) : answer c line s = (reply, t) := by
  simp only [answer, Procedure.answer, read]
  exact run_bind done

theorem answer_of_error {failure : ServiceFailure} (read : Command.read line = .ok command)
    (failed : execute c command s = (.error failure, t)) :
    ∃ entry, answer c line s = (.error failure.chainText, { t with log := t.log ++ [entry] }) := by
  simp only [answer, Procedure.answer, read]
  exact ⟨_, run_bind failed⟩

theorem answer_of_unread {fault : Json.Fault} (unread : Command.read line = .error fault) :
    ∃ entry, answer c line s = (.error fault.message, { s with log := s.log ++ [entry] }) := by
  simp only [answer, Procedure.answer, unread]
  exact ⟨_, rfl⟩

theorem execute_record (saves : c.saveFault s.saves = none) (held : s.store = .tableOf rows)
    (row : Row) :
    ∃ t, execute c (.record row) s = (.ok .recorded, t) ∧ t.store = .tableOf (rows ++ [row]) := by
  have kept : s.store.save row = .ok (.tableOf (rows ++ [row])) := by
    rw [held]
    simp only [Store.tableOf, List.map_append]
    rfl
  have done : save c row s = (.ok (), { s with
      saves := s.saves + 1, store := .tableOf (rows ++ [row]), saved := s.saved ++ [row] }) := by
    simp only [save, saves, kept]
  exact ⟨_, bind_ok done, rfl⟩

/-- Only a row that is to be recorded changes the store. -/
theorem execute_other (command : Command) (other : command.row? = none) :
    (execute c command s).2.store = s.store := by
  cases command with
  | initiate event =>
      rcases publish_cases .events event.text s with ⟨-, t, sent, leads⟩ | ⟨-, failed⟩
      · have done : execute c (.initiate event) s = _ := bind_ok (explain_ok sent)
        have same : Except.ok s.store = .ok t.store := leads.store
        rw [done]
        exact (Except.ok.inj same).symm
      · have done : execute c (.initiate event) s = _ := bind_error (explain_error failed)
        rw [done]
  | results documentId processors =>
      cases processors with
      | none =>
          obtain ⟨outcome, asked⟩ := ask_cases c (·.find documentId) s
          cases outcome with
          | error failure =>
              have done : execute c (.results documentId none) s = _ := bind_error (bind_error asked)
              rw [done]
          | ok found =>
              have done : execute c (.results documentId none) s = _ := bind_ok (bind_ok asked)
              rw [done]
              rfl
      | some processors =>
          obtain ⟨outcome, asked⟩ :=
            ask_cases c (·.findFrom documentId (processors.map ProcessorRef.id)) s
          cases outcome with
          | error failure =>
              have done : execute c (.results documentId (some processors)) s = _ := bind_error asked
              rw [done]
          | ok found =>
              have done : execute c (.results documentId (some processors)) s = _ := bind_ok asked
              rw [done]
              rfl
  | record row => cases other

theorem answer_store (read : Command.read line = .ok command) :
    (answer c line s).2.store = (execute c command s).2.store := by
  cases done : execute c command s with
  | mk outcome t =>
      cases outcome with
      | ok reply => rw [answer_of_ok read done]
      | error failure =>
          obtain ⟨entry, failed⟩ := answer_of_error read done
          rw [failed]

theorem recorded?_of_read (read : Command.read line = .ok command) :
    recorded? line = command.row? := by
  rw [recorded?, read]
  rfl

theorem recorded?_of_unread {fault : Json.Fault} (unread : Command.read line = .error fault) :
    recorded? line = none := by
  rw [recorded?, unread]
  rfl

theorem recorded?_eq_some {row : Row} :
    recorded? line = some row ↔ Command.read line = .ok (.record row) := by
  constructor
  · intro found
    cases read : Command.read line with
    | error fault =>
        rw [recorded?_of_unread read] at found
        cases found
    | ok command =>
        rw [recorded?_of_read read] at found
        cases command with
        | record same =>
            cases found
            rfl
        | initiate | results => cases found
  · exact recorded?_of_read

/-- A line adds to a table the row that it is to record, and nothing else. -/
theorem answer_tableOf (saves : ∀ n, c.saveFault n = none) (held : s.store = .tableOf rows)
    (line : String) :
    (answer c line s).2.store = .tableOf (rows ++ (recorded? line).toList) := by
  cases read : Command.read line with
  | error fault =>
      obtain ⟨entry, done⟩ := answer_of_unread (c := c) (s := s) read
      rw [done, recorded?_of_unread read, Option.toList_none, List.append_nil]
      exact held
  | ok command =>
      rw [answer_store read, recorded?_of_read read]
      cases command with
      | record row =>
          obtain ⟨t, done, after⟩ := execute_record (saves _) held row
          rw [done]
          exact after
      | initiate | results =>
          rw [execute_other _ rfl, held]
          exact congrArg Store.tableOf (List.append_nil rows).symm

theorem answerAll_tableOf (saves : ∀ n, c.saveFault n = none) (held : s.store = .tableOf rows)
    (lines : List String) :
    (answerAll c s lines).store = .tableOf (rows ++ lines.filterMap recorded?) := by
  induction lines generalizing s rows with
  | nil =>
      rw [List.filterMap_nil, List.append_nil]
      exact held
  | cons line lines ih =>
      have step : answerAll c s (line :: lines) = answerAll c (answer c line s).2 lines := rfl
      rw [step, ih (answer_tableOf saves held line), List.append_assoc]
      cases found : recorded? line with
      | none => rw [List.filterMap_cons_none found, Option.toList_none, List.nil_append]
      | some row => rw [List.filterMap_cons_some found, Option.toList_some, List.singleton_append]

variable {documentId : Uuid} {question : String}

theorem execute_results (held : s.store = .tableOf rows) (answers : c.findFault s.finds = none)
    (documentId : Uuid) :
    execute c (.results documentId none) s =
      (((rows.filter (·.documentId == documentId)).mapM s.store.givenBack |>.mapError .database).map
        fun found => .results (Row.sortByTime found), { s with finds := s.finds + 1 }) := by
  have holds : s.store.Holds rows := held ▸ Store.Holds.table rows
  have asked := results_of_holds holds answers documentId
  cases found : (rows.filter (·.documentId == documentId)).mapM s.store.givenBack with
  | error failure =>
      rw [found] at asked
      exact bind_error asked
  | ok backs =>
      rw [found] at asked
      exact bind_ok asked

/-- The table gives back just the rows that read back. -/
theorem readsBack_iff {row : Row} (legible : row.Legible) :
    row.ReadsBack ↔ ∃ back, (Store.tableOf rows).givenBack row = .ok back := by
  simp only [Store.tableOf, Store.givenBack, mapError_eq_ok, Record.row_ofRow_ok legible]
  constructor
  · rintro ⟨plain, result, read⟩
    exact ⟨_, plain, result, read, rfl⟩
  · rintro ⟨back, plain, result, read, -⟩
    exact ⟨plain, result, read⟩

/-- A question without processors is answered with the rows of its document if all of them read back, and
else with an error. -/
theorem answer_results (held : s.store = .tableOf rows) (legible : ∀ row ∈ rows, row.Legible)
    (answers : c.findFault s.finds = none)
    (asking : Command.read question = .ok (.results documentId none)) :
    ((∀ row ∈ rows, row.documentId = documentId → row.ReadsBack) →
      ∃ listed, (answer c question s).1 = .results listed ∧
        ∀ row ∈ rows, row.documentId = documentId →
          ∃ back ∈ listed, s.store.givenBack row = .ok back) ∧
    ((∃ row ∈ rows, row.documentId = documentId ∧ ¬row.ReadsBack) →
      ∃ message, (answer c question s).1 = .error message) := by
  have asked := execute_results held answers documentId
  cases found : (rows.filter (·.documentId == documentId)).mapM s.store.givenBack with
  | ok backs =>
      rw [found] at asked
      have given : ∀ row ∈ rows, row.documentId = documentId →
          ∃ back ∈ backs, s.store.givenBack row = .ok back := fun row member document =>
        (mem_of_mapM_eq_ok found).1 row (List.mem_filter.mpr ⟨member, by simpa using document⟩)
      constructor
      · intro _
        refine ⟨_, congrArg Prod.fst (answer_of_ok asking asked), fun row member document => ?_⟩
        obtain ⟨back, listed, same⟩ := given row member document
        exact ⟨back, Row.mem_sortByTime.mpr listed, same⟩
      · rintro ⟨row, member, document, unread⟩
        obtain ⟨back, -, same⟩ := given row member document
        rw [held] at same
        exact absurd ((readsBack_iff (legible row member)).mpr ⟨back, same⟩) unread
  | error failure =>
      rw [found] at asked
      constructor
      · intro all
        obtain ⟨backs, other⟩ : ∃ backs,
            (rows.filter (·.documentId == documentId)).mapM s.store.givenBack = .ok backs := by
          rw [exists_mapM_eq_ok, held]
          intro row member
          obtain ⟨member, document⟩ := List.mem_filter.mp member
          exact (readsBack_iff (legible row member)).mp (all row member (by simpa using document))
        rw [found] at other
        cases other
      · intro _
        obtain ⟨entry, answered⟩ := answer_of_error asking asked
        exact ⟨_, congrArg Prod.fst answered⟩

/-- A line that records a row is answered as having done so. A later question for the row's document lists
the row if all rows of the document that were ever recorded read back, and else is answered with an error. -/
theorem recorded_row_listed (c : Collaborators π) (saves : ∀ n, c.saveFault n = none)
    (finds : ∀ n, c.findFault n = none) (start : Service) (old : List Row)
    (legible : ∀ row ∈ old, row.Legible) (opened : start.store = .tableOf old)
    (earlier later : List String) (line question : String) (row : Row)
    (recording : Command.read line = .ok (.record row))
    (asking : Command.read question = .ok (.results row.documentId none)) :
    let lines := earlier ++ line :: later
    let s := answerAll c start lines
    let rows := (old ++ lines.filterMap recorded?).filter (·.documentId == row.documentId)
    (answer c line (answerAll c start earlier)).1 = .recorded ∧
      ((∀ other ∈ rows, other.ReadsBack) →
        ∃ listed, (answer c question s).1 = .results listed ∧
          ∃ back ∈ listed, back.documentId = row.documentId ∧ back.processorId = row.processorId ∧
            back.status = row.status ∧ back.timestamp = row.timestamp) ∧
      ((∃ other ∈ rows, ¬other.ReadsBack) → ∃ message, (answer c question s).1 = .error message) := by
  intro lines s rows
  have before := answerAll_tableOf saves opened earlier
  have held : s.store = .tableOf (old ++ lines.filterMap recorded?) :=
    answerAll_tableOf saves opened lines
  have found : recorded? line = some row := recorded?_of_read recording
  have member : row ∈ old ++ lines.filterMap recorded? :=
    List.mem_append_right _ (List.mem_filterMap.mpr ⟨line, by simp [lines], found⟩)
  have all : ∀ row ∈ old ++ lines.filterMap recorded?, row.Legible := by
    intro other member
    rcases List.mem_append.mp member with known | recorded
    · exact legible other known
    · obtain ⟨line, -, found⟩ := List.mem_filterMap.mp recorded
      exact Command.read_record (recorded?_eq_some.mp found)
  obtain ⟨t, done, -⟩ := execute_record (saves _) before row
  obtain ⟨listing, failing⟩ := answer_results held all (finds _) asking
  refine ⟨congrArg Prod.fst (answer_of_ok recording done), fun readable => ?_, fun unread => ?_⟩
  · obtain ⟨listed, answered, given⟩ := listing fun other member document =>
      readable other (List.mem_filter.mpr ⟨member, by simpa using document⟩)
    obtain ⟨back, present, same⟩ := given row member rfl
    exact ⟨listed, answered, back, present, Store.givenBack_ok (all row member) same⟩
  · obtain ⟨other, member, fails⟩ := unread
    obtain ⟨member, document⟩ := List.mem_filter.mp member
    exact failing ⟨other, member, by simpa using document, fails⟩

/-- A line that records a result of a time. -/
def recordLine (time : String) : String :=
  "\x7b\"command\":\"record\",\"documentId\":\"00000000-0000-0000-0000-000000000001\"," ++
    "\"processorId\":\"pages\",\"status\":\"COMPLETE\",\"timestamp\":\"" ++ time ++ "\"\x7d"

/-- A line that asks for the rows of the same document. -/
def resultsLine : String :=
  "\x7b\"command\":\"results\",\"documentId\":\"00000000-0000-0000-0000-000000000001\"\x7d"

theorem read_resultsLine : Command.read resultsLine = .ok (.results ⟨1⟩ none) := by cbv

/-- What is looked at in a row that a line records. -/
def recordedView (line : String) : Option (Uuid × String × Status × Timestamp × String) :=
  (recorded? line).map fun row =>
    (row.documentId, row.processorId, row.status, row.timestamp, row.result.text)

/-- A result of the first day of 2026 is listed. -/
theorem plain_year_listed :
    let c : Collaborators Endpoint := .reliable [] (fun _ => .ok .ready) dayClock
    let s := answerAll c { store := .table .empty } [recordLine "2026-01-01T00:00:00Z"]
    ∃ listed, (answer c resultsLine s).1 = .results listed ∧ ∃ back ∈ listed,
      back.documentId = ⟨1⟩ ∧ back.processorId = "pages" ∧ back.status = .complete ∧
        back.timestamp = ⟨⟨2026, 1, 1⟩, 0, 0⟩ := by
  intro c s
  have view : recordedView (recordLine "2026-01-01T00:00:00Z") =
      some (⟨1⟩, "pages", .complete, ⟨⟨2026, 1, 1⟩, 0, 0⟩, "\x7b\x7d") := by decide +kernel
  obtain ⟨row, found, same⟩ := Option.map_eq_some_iff.mp view
  simp only [Prod.mk.injEq] at same
  obtain ⟨document, processor, status, time, payload⟩ := same
  have asking : Command.read resultsLine = .ok (.results row.documentId none) :=
    document ▸ read_resultsLine
  have readable : row.ReadsBack := by
    refine ⟨?_, ?_⟩
    · rw [time]
      decide
    · rw [payload]
      exact ⟨.empty, by cbv⟩
  obtain ⟨-, listing, -⟩ := recorded_row_listed c (fun _ => rfl) (fun _ => rfl)
    { store := .table .empty } [] (by simp) rfl [] [] _ resultsLine row
    (recorded?_eq_some.mp found) asking
  rw [document, processor, status, time] at listing
  apply listing
  intro other member
  have only : [recordLine "2026-01-01T00:00:00Z"].filterMap recorded? = [row] := by simp [found]
  rw [List.nil_append, List.nil_append, only] at member
  rw [List.mem_singleton.mp (List.mem_filter.mp member).1]
  exact readable

/-- A result of the year 10000 is recorded, and no question for the rows of its document is answered with
rows from then on. -/
theorem far_year_not_listed :
    let c : Collaborators Endpoint := .reliable [] (fun _ => .ok .ready) dayClock
    let s : Service := { store := .table .empty }
    let line := recordLine "+10000-01-01T00:00:00Z"
    (answer c line s).1 = .recorded ∧
      ∃ message, (answer c resultsLine (answerAll c s [line])).1 = .error message := by
  intro c s line
  have view : recordedView line =
      some (⟨1⟩, "pages", .complete, ⟨⟨10000, 1, 1⟩, 0, 0⟩, "\x7b\x7d") := by decide +kernel
  obtain ⟨row, found, same⟩ := Option.map_eq_some_iff.mp view
  simp only [Prod.mk.injEq] at same
  obtain ⟨document, -, -, time, -⟩ := same
  have read := recorded?_eq_some.mp found
  have held : (answerAll c s [line]).store = .tableOf [row] := by
    have after : (answerAll c s [line]).store = .tableOf ([] ++ [line].filterMap recorded?) :=
      answerAll_tableOf (fun _ => rfl) rfl [line]
    simpa [found] using after
  have opened : s.store = .tableOf [] := rfl
  obtain ⟨t, done, -⟩ := execute_record (c := c) rfl opened row
  refine ⟨congrArg Prod.fst (answer_of_ok read done), ?_⟩
  refine (answer_results held (by simpa using Command.read_record read) rfl read_resultsLine).2
    ⟨row, List.mem_singleton_self row, document, ?_⟩
  rintro ⟨plain, -⟩
  rw [time] at plain
  exact absurd plain (by decide)

end Ingress

end Dossier
