import Dossier.Proofs.Consumer.Provenance
import Dossier.Proofs.Ingress.Effect

/-! # Carrying rows over

The rows that a question is answered with become lines that record them, once each has a command among its members.
An empty service that answers these lines answers the question as before. Main statement: `results_carried_over`.
-/

namespace Dossier.Ingress

open Service
open Relation (ReflTransGen)

variable {π : Type} {c : Collaborators π} {s t : Service} {rows old : List Row} {row : Row} {line question : String}
  {documentId : Uuid} {processors : Option (List ProcessorRef)}

/-- The rows that a question finds among some. -/
def pick (documentId : Uuid) : Option (List ProcessorRef) → List Row → List Row
  | none, rows => Row.sortByTime (rows.filter (·.documentId == documentId))
  | some processors, rows => rows.filter fun row =>
      row.documentId == documentId && (processors.map ProcessorRef.id).contains row.processorId

theorem mem_of_pick (picked : row ∈ pick documentId processors rows) :
    row ∈ rows ∧ row.documentId = documentId := by
  cases processors with
  | none =>
      obtain ⟨member, own⟩ := List.mem_filter.mp (Row.mem_sortByTime.mp picked)
      exact ⟨member, by simpa using own⟩
  | some processors =>
      obtain ⟨member, own⟩ := List.mem_filter.mp picked
      rw [Bool.and_eq_true] at own
      exact ⟨member, by simpa using own.1⟩

/-- What was found is found again, in the same order. -/
theorem pick_pick : pick documentId processors (pick documentId processors rows) =
    pick documentId processors rows := by
  cases processors with
  | none =>
      have own : ∀ row ∈ pick documentId none rows, (row.documentId == documentId) = true :=
        fun row picked => beq_iff_eq.mpr (mem_of_pick picked).2
      rw [pick, List.filter_eq_self.mpr own]
      exact List.mergeSort_of_pairwise (Row.sortByTime_pairwise _)
  | some processors => simp only [pick, List.filter_filter, Bool.and_self]

theorem answer_pick (answers : ∀ n, c.findFault n = none) (held : s.store = .memory rows)
    (asking : Command.read question = .ok (.results documentId processors)) :
    (answer c question s).1 = .results (pick documentId processors rows) := by
  have found : query c documentId processors s =
      (.ok (pick documentId processors rows), { s with finds := s.finds + 1 }) := by
    cases processors with
    | none =>
        refine bind_ok ((ask_of_answers (answers s.finds) (·.find documentId)).trans ?_)
        simp only [held]
        rfl
    | some processors =>
        refine (ask_of_answers (answers s.finds)
          (·.findFrom documentId (processors.map ProcessorRef.id))).trans ?_
        simp only [held]
        rfl
  have done : execute c (.results documentId processors) s =
      (.ok (.results (pick documentId processors rows)), { s with finds := s.finds + 1 }) := by
    rw [execute_query]
    exact bind_ok found
  rw [answer_of_ok asking done]

theorem answer_recording (saves : ∀ n, c.saveFault n = none) (held : s.store = .memory old)
    (recording : Command.read line = .ok (.record row)) :
    ∃ t, answer c line s = (.recorded, t) ∧ t.store = .memory (old ++ [row]) := by
  have done : save c row s = (.ok (), { s with
      saves := s.saves + 1, store := .memory (old ++ [row]), saved := s.saved ++ [row] }) := by
    simp only [save, saves, held, Store.save]
  exact ⟨_, answer_of_ok recording (bind_ok done), rfl⟩

theorem mapM_recording (saves : ∀ n, c.saveFault n = none) {lines : List String}
    (recording : List.Forall₂ (fun row line => Command.read line = .ok (.record row)) rows lines)
    (held : s.store = .memory old) :
    ∃ t, lines.mapM (answer c) s = (lines.map fun _ => .recorded, t) ∧ t.store = .memory (old ++ rows) := by
  induction recording generalizing s old with
  | nil => exact ⟨s, rfl, by rw [List.append_nil]; exact held⟩
  | @cons row line rows lines first rest ih =>
      obtain ⟨next, answered, held⟩ := answer_recording saves held first
      obtain ⟨last, more, held⟩ := ih held
      refine ⟨last, ?_, by rw [held, List.append_assoc]; rfl⟩
      simp only [List.mapM_cons, bind, StateT.bind, answered, more]
      rfl

/-- Whether a line is a listed row with a command among its members. -/
def Records (listed : Json) (line : String) : Prop :=
  ∃ before after, listed = .object (before ++ after) ∧
    line = (Json.object (before ++ ("command", .string "record") :: after)).text

/-- Whether lines are the rows of a reply, each with a command among its members. -/
def Exports (reply : Json) (lines : List String) : Prop :=
  ∃ listed, reply = .object [("results", .array listed)] ∧ List.Forall₂ Records listed lines

theorem read_of_records (normal : row.Normal) (records : Records row.toJson line) :
    Command.read line = .ok (.record row) := by
  obtain ⟨before, after, listed, rfl⟩ := records
  exact Command.read_recording normal (Json.object.inj listed)

theorem read_of_exports {lines : List String} (normal : ∀ row ∈ rows, row.Normal)
    (exports : Exports (Reply.results rows).toJson lines) :
    List.Forall₂ (fun row line => Command.read line = .ok (.record row)) rows lines := by
  obtain ⟨listed, same, records⟩ := exports
  have whole : rows.map Row.toJson = listed := by simpa [Reply.toJson] using same
  rw [← whole, List.forall₂_map_left_iff] at records
  clear same whole
  induction records with
  | nil => exact .nil
  | cons first rest ih =>
      obtain ⟨head, others⟩ := List.forall_mem_cons.mp normal
      exact .cons (read_of_records head first) (ih others)

/-- The rows that a service in memory lists for a document, as lines that record them, are all recorded by an empty
one, which then answers the same question with the same rows. -/
theorem results_carried_over (c : Collaborators Endpoint) (c' : Collaborators π) (q : QueueSettings)
    (answers : ∀ n, c.findFault n = none) (saves' : ∀ n, c'.saveFault n = none) (answers' : ∀ n, c'.findFault n = none)
    {s t : Service} (empty : s.store = .memory []) (empty' : t.store = .memory []) {x : Doings}
    (reached : ReflTransGen (Doings.Step c q) ⟨s, []⟩ x)
    (asking : Command.read question = .ok (.results documentId processors))
    (numbers : ∀ rows, x.service.store = .memory rows → ∀ row ∈ rows, row.documentId = documentId →
      row.result.toJson.Every Json.KeepsNumber) :
    ∃ rows, (answer c question x.service).1 = .results rows ∧
      ∀ lines, Exports (Reply.results rows).toJson lines →
        ∃ t', lines.mapM (answer c') t = (lines.map fun _ => .recorded, t') ∧
          (answer c' question t').1 = .results rows := by
  obtain ⟨stored, held, regular⟩ := regular_of_reached empty reached
  refine ⟨pick documentId processors stored, answer_pick answers held asking, fun lines exports => ?_⟩
  have normal : ∀ row ∈ pick documentId processors stored, row.Normal := by
    intro row picked
    obtain ⟨member, own⟩ := mem_of_pick picked
    exact (regular row member).normal (numbers stored held row member own)
  obtain ⟨t', answered, held'⟩ := mapM_recording saves' (read_of_exports normal exports) empty'
  rw [List.nil_append] at held'
  exact ⟨t', answered, (answer_pick answers' held' asking).trans (congrArg Reply.results pick_pick)⟩

/-- A result of a leap second. -/
def leapRow : Row := ⟨⟨1⟩, "pages", .complete, .empty, ⟨⟨2016, 12, 31⟩, 86399, 1000000000⟩⟩

/-- A line that records it, with its command between the other members. -/
def leapLine : String :=
  (Json.object ((Json.Members.ofList leapRow.members).take 3 ++ ("command", .string "record") ::
    (Json.Members.ofList leapRow.members).drop 3)).text

theorem read_leapLine : Command.read leapLine = .ok (.record leapRow) := by
  have regular : leapRow.Regular := ⟨⟨⟨"COMPLETE", rfl⟩⟩, Payload.regular_empty⟩
  exact Command.read_recording (regular.normal ⟨trivial, trivial⟩) (List.take_append_drop 3 _).symm

/-- A result of a leap second is carried over. -/
theorem leap_second_carried_over :
    let c : Collaborators Endpoint := .reliable [] (fun _ => .ok .ready) dayClock
    let s : Service := { store := .memory [] }
    let x := (answer c leapLine s).2
    Exports (Reply.results [leapRow]).toJson [leapLine] ∧ (answer c resultsLine x).1 = .results [leapRow] ∧
      ∃ t, [leapLine].mapM (answer c) s = ([.recorded], t) ∧ (answer c resultsLine t).1 = .results [leapRow] := by
  intro c s x
  obtain ⟨after, answered, held⟩ := answer_recording (c := c) (s := s) (fun _ => rfl) rfl read_leapLine
  have same : x = after := congrArg Prod.snd answered
  rw [← same, List.nil_append] at held
  obtain ⟨works, reached⟩ : ∃ works, ReflTransGen (Doings.Step c {}) ⟨s, []⟩ ⟨x, works⟩ :=
    ⟨_, Doings.steps_answer ⟨s, []⟩ leapLine⟩
  clear_value x
  have alone : pick ⟨1⟩ none [leapRow] = [leapRow] := by simp [pick, Row.sortByTime, leapRow]
  have listed : (answer c resultsLine x).1 = .results [leapRow] :=
    alone ▸ answer_pick (fun _ => rfl) held read_resultsLine
  have exports : Exports (Reply.results [leapRow]).toJson [leapLine] := by
    refine ⟨[leapRow.toJson], rfl, .cons ⟨_, _, ?_, rfl⟩ .nil⟩
    rw [List.take_append_drop]
    rfl
  have numbers : ∀ rows, x.store = .memory rows → ∀ row ∈ rows, row.documentId = ⟨1⟩ →
      row.result.toJson.Every Json.KeepsNumber := by
    intro rows stored row member own
    rw [held] at stored
    cases stored
    rw [List.mem_singleton.mp member]
    exact ⟨trivial, trivial⟩
  obtain ⟨rows, replied, carried⟩ := results_carried_over c c {} (t := s) (fun _ => rfl)
    (fun _ => rfl) (fun _ => rfl) rfl rfl reached read_resultsLine numbers
  obtain rfl : [leapRow] = rows := Reply.results.inj (listed.symm.trans replied)
  exact ⟨exports, listed, carried [leapLine] exports⟩

end Dossier.Ingress
