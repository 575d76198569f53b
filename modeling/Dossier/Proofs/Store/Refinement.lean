import Dossier.Proofs.Store.Contents

/-! # Tables and memory

A table and a store in memory that go through the same operations give the same answers, but for questions
that a table has to refuse. The rows of the store in memory are the whole invariant: the table holds their
records. Main statement: `table_answers_as_memory`.
-/

namespace Dossier.Store

/-- What is asked of a store. -/
inductive Operation where
  | save (row : Row)
  | find (documentId : Uuid)
  | findFrom (documentId : Uuid) (processorIds : List String)
  /-- A table is opened again; memory stays as it is. -/
  | reopen
  deriving Repr

/-- The store after its file was opened again. -/
def reopen : Store → Store
  | .memory rows => .memory rows
  | .table t => .table t.reopen

/-- The answer to an operation, which is no rows where none are asked for. -/
def answer (s : Store) : Operation → Except DatabaseFailure (List Row)
  | .save row => (s.save row).map fun _ => []
  | .find documentId => s.find documentId
  | .findFrom documentId processorIds => s.findFrom documentId processorIds
  | .reopen => .ok []

/-- The store after an operation. One that fails changes nothing. -/
def step (s : Store) : Operation → Store
  | .save row => match s.save row with
    | .ok after => after
    | .error _ => s
  | .find _ | .findFrom _ _ => s
  | .reopen => s.reopen

/-- The store after some operations. -/
def run (s : Store) (operations : List Operation) : Store :=
  operations.foldl step s

/-- The ids of processors that an operation lists. -/
def Operation.listed : Operation → List String
  | .findFrom _ processorIds => processorIds
  | _ => []

/-- Whether a table refuses an operation that memory answers with some rows: too many processors are
listed, or one of the rows has a year that its reader does not take. -/
def Operation.Refused (operation : Operation) (rows : List Row) : Prop :=
  Table.mostProcessors < operation.listed.length ∨ ∃ row ∈ rows, ¬row.timestamp.HasPlainYear

variable {rows : List Row}

theorem step_tableOf (rows : List Row) (operation : Operation) :
    ∃ later, step (.memory rows) operation = .memory later ∧
      step (tableOf rows) operation = tableOf later ∧
      ∀ row ∈ later, row ∈ rows ∨ operation = .save row := by
  cases operation with
  | save row =>
      refine ⟨rows ++ [row], rfl, ?_, ?_⟩
      · simp only [tableOf, List.map_append]
        rfl
      · intro found member
        rcases List.mem_append.mp member with old | new
        · exact .inl old
        · rw [List.mem_singleton.mp new]
          exact .inr rfl
  | find | findFrom | reopen => exact ⟨rows, rfl, rfl, fun row old => .inl old⟩

/-- What becomes of rows that are looked up in a table. -/
theorem refused_or_found (storable : ∀ row ∈ rows, row.Storable) (operation : Operation)
    (few : operation.listed.length ≤ Table.mostProcessors) :
    (operation.Refused rows →
      ∃ fault, Table.rows (rows.map Record.ofRow) = .error (.query fault)) ∧
    (¬operation.Refused rows → Table.rows (rows.map Record.ofRow) = .ok rows) := by
  obtain ⟨whole, failed⟩ := rows_map_ofRow storable
  constructor
  · rintro (many | other)
    · omega
    · exact failed other
  · intro answered
    apply whole
    intro row member
    by_contra other
    exact answered (.inr ⟨row, member, other⟩)

/-- A table answers an operation as memory does that has the same rows, unless it refuses it. -/
theorem answer_tableOf (storable : ∀ row ∈ rows, row.Storable) (operation : Operation) :
    ∃ found, answer (.memory rows) operation = .ok found ∧
      (operation.Refused found →
        ∃ fault, answer (tableOf rows) operation = .error (.query fault)) ∧
      (¬operation.Refused found → answer (tableOf rows) operation = .ok found) := by
  cases operation with
  | save row =>
      refine ⟨[], rfl, ?_, fun _ => rfl⟩
      rintro (many | ⟨_, member, -⟩)
      · exact absurd many (Nat.not_lt_zero _)
      · cases member
  | reopen =>
      refine ⟨[], rfl, ?_, fun _ => rfl⟩
      rintro (many | ⟨_, member, -⟩)
      · exact absurd many (Nat.not_lt_zero _)
      · cases member
  | find documentId =>
      refine ⟨_, rfl, ?_⟩
      rw [answer, find_tableOf]
      exact refused_or_found (fun row member => storable row (List.mem_filter.mp member).1) _
        (Nat.zero_le _)
  | findFrom documentId processorIds =>
      refine ⟨_, rfl, ?_⟩
      rw [answer]
      by_cases few : processorIds.length ≤ Table.mostProcessors
      · rw [findFrom_tableOf rows documentId few]
        exact refused_or_found (fun row member => storable row (List.mem_filter.mp member).1) _ few
      · have many : Table.mostProcessors < processorIds.length := by omega
        have some : ¬processorIds.isEmpty = true := by
          rw [List.isEmpty_iff_length_eq_zero]
          omega
        have refused : findFrom (tableOf rows) documentId processorIds =
            .error (.query .tooManyVariables) := by
          simp only [findFrom, tableOf, Table.findFrom]
          rw [if_neg some, if_pos many]
        exact ⟨fun _ => ⟨_, refused⟩, fun answered => absurd (.inl many) answered⟩

/-- A table and a store in memory that hold the same rows still do so after any operations. -/
theorem run_tableOf (rows : List Row) (operations : List Operation) :
    ∃ later, run (.memory rows) operations = .memory later ∧
      run (tableOf rows) operations = tableOf later ∧
      ∀ row ∈ later, row ∈ rows ∨ .save row ∈ operations := by
  induction operations generalizing rows with
  | nil => exact ⟨rows, rfl, rfl, fun row old => .inl old⟩
  | cons operation operations ih =>
      obtain ⟨next, memory, table, origin⟩ := step_tableOf rows operation
      obtain ⟨later, memories, tables, all⟩ := ih next
      refine ⟨later, ?_, ?_, ?_⟩
      · rw [run, List.foldl_cons, memory]
        exact memories
      · rw [run, List.foldl_cons, table]
        exact tables
      · intro row member
        rcases all row member with earlier | saved
        · rcases origin row earlier with old | rfl
          · exact .inl old
          · exact .inr List.mem_cons_self
        · exact .inr (List.mem_cons_of_mem _ saved)

/-- After any operations a new table answers the next one as a new store in memory does, but refuses it just
where a table must. -/
theorem table_answers_as_memory (before : List Operation) (operation : Operation)
    (storable : ∀ row, .save row ∈ before → row.Storable) :
    ∃ found, (run .empty before).answer operation = .ok found ∧
      (operation.Refused found →
        ∃ fault, (run (.table .empty) before).answer operation = .error (.query fault)) ∧
      (¬operation.Refused found → (run (.table .empty) before).answer operation = .ok found) := by
  obtain ⟨rows, memory, table, saved⟩ := run_tableOf [] before
  have all : ∀ row ∈ rows, row.Storable := fun row member =>
    storable row ((saved row member).resolve_left List.not_mem_nil)
  have started : run (.table .empty) before = tableOf rows := table
  rw [empty, memory, started]
  exact answer_tableOf all operation

/-- The row of a result that was found in the leap second at the end of a year. -/
def leapRow (year : Date.Year) : Row :=
  .complete ⟨1⟩ "pages" ⟨[("count", .number (.whole 18446744073709551615))]⟩
    ⟨⟨year, 12, 31⟩, 86399, 1500000000⟩

theorem storable_leapRow (year : Date.Year) : (leapRow year).Storable where
  status := ⟨"COMPLETE", rfl⟩
  depth := (by decide : 1 ≤ 127)
  numbers := ⟨trivial, Json.readsBack_whole (by decide) (by decide), trivial⟩
  order := ⟨List.pairwise_singleton _ _, trivial, trivial⟩

/-- A table answers with a row of a leap second, and refuses to answer when there is one of the year 10000
as well. -/
theorem table_answers_leap_seconds :
    (run (.table .empty) [.save (leapRow 2016), .reopen]).answer (.find ⟨1⟩) = .ok [leapRow 2016] ∧
      ∃ fault, (run (.table .empty) [.save (leapRow 2016), .save (leapRow 10000)]).answer
        (.find ⟨1⟩) = .error (.query fault) := by
  have plain : (leapRow 2016).Storable := storable_leapRow 2016
  have far : (leapRow 10000).Storable := storable_leapRow 10000
  constructor
  · obtain ⟨found, memory, -, answered⟩ :=
      table_answers_as_memory [.save (leapRow 2016), .reopen] (.find ⟨1⟩) (by simpa using plain)
    have same : Except.ok [leapRow 2016] = Except.ok found := memory
    cases same
    apply answered
    rintro (many | ⟨row, member, other⟩)
    · exact absurd many (by decide)
    · rw [List.mem_singleton.mp member] at other
      exact other (by decide)
  · obtain ⟨found, memory, refused, -⟩ := table_answers_as_memory
      [.save (leapRow 2016), .save (leapRow 10000)] (.find ⟨1⟩) (by simpa using ⟨plain, far⟩)
    have same : Except.ok [leapRow 2016, leapRow 10000] = Except.ok found := memory
    cases same
    exact refused (.inr ⟨leapRow 10000, by simp, by decide⟩)

end Dossier.Store
