import Dossier.Proofs.Json.Buffering
import Dossier.Proofs.Json.Parsing
import Dossier.Proofs.Message.Command

/-! # Texts that record rows

The text of an object with members of a row becomes a line that records the row once a command is put among its
members. The row is decoded straight from the one text, and from the members that are left of the other. Main
statement: `Command.reads_record_iff`.
-/

namespace Dossier

open Json Json.Grammar

variable {members before after : List (List Char)} {told beside : List (Option String × Option Json)}

namespace Row

/-- The keys that rows have. -/
def keys : List String :=
  ["documentId", "processorId", "status", "result", "timestamp"]

/-- Whether a text is a member with a key that rows have, whatever its value. -/
def IsMember (text : List Char) : Prop :=
  ∃ key ∈ keys, ∃ value, Member text (some key, value)

/-- Whether all parts have keys that rows have. -/
def Keyed (told : List (Option String × Option Json)) : Prop :=
  ∀ part ∈ told, ∃ key slot, part.1 = some key ∧ shape.slots.find? (·.name == key) = some slot

theorem exists_slot {key : String} (known : key ∈ keys) :
    ∃ slot, shape.slots.find? (·.name == key) = some slot := by
  simp only [keys, List.mem_cons, List.not_mem_nil, or_false] at known
  rcases known with rfl | rfl | rfl | rfl | rfl
  all_goals exact ⟨_, rfl⟩

theorem exists_told (row : ∀ text ∈ members, IsMember text) :
    ∃ told, List.Forall₂ Member members told ∧ Keyed told := by
  induction members with
  | nil => exact ⟨[], .nil, nofun⟩
  | cons text members ih =>
      obtain ⟨⟨key, known, value, member⟩, row⟩ := List.forall_mem_cons.mp row
      obtain ⟨slot, found⟩ := exists_slot known
      obtain ⟨told, each, keyed⟩ := ih row
      exact ⟨(some key, value) :: told, .cons member each, List.forall_mem_cons.mpr ⟨⟨key, slot, rfl, found⟩, keyed⟩⟩

/-- No field of a row is a command. -/
theorem Keyed.ne_command (keyed : Keyed told) : ∀ part ∈ told, ∃ key, part.1 = some key ∧ key ≠ "command" := by
  intro part among
  obtain ⟨key, slot, named, found⟩ := keyed part among
  refine ⟨key, named, ?_⟩
  rintro rfl
  cases found

/-- Every field of a row is decoded from a buffer as it is from a text, for payloads fit into a buffer. -/
theorem steady : ∀ slot ∈ shape.slots, Shape.SteadySlot 126 slot := by
  have payload : Steady 126 Payload.decode := (steady_decodeMembers "a map" (by decide)).map Payload.mk
  simp only [shape, List.forall_mem_cons, List.not_mem_nil, false_imp_iff, implies_true, and_true]
  exact ⟨Shape.steadySlot_of (steady_decodeText _ _), Shape.steadySlot_of (steady_decodeText _ _),
    Shape.steadySlot_of (steady_decodeText _ _), Shape.steadySlot_of payload,
    Shape.steadySlot_of (steady_decodeText _ _)⟩

end Row

namespace Command

/-- A tree has just the row that is recorded by a tree with a command beside the same members. -/
theorem decode_record_tells {start begin : Position} {fields tagged : Fields} {r : Row}
    (tells : fields.Tells (told ++ beside))
    (telling : tagged.Tells (told ++ (some "command", some (.string "record")) :: beside))
    (keyed : Row.Keyed (told ++ beside)) :
    Row.decode .whole (.object start fields) = .ok r ↔
      Command.decode .whole (.object begin tagged) = .ok (.record r) := by
  have known (node : Node) (spells : node.Spells (.string "record")) :
      decodeName "variant identifier" tags (.text 126) node = .ok .record :=
    decodeText_ok (by rfl) _ spells
  obtain ⟨left, rest, splits⟩ := decodeTagged_tells telling keyed.ne_command known
  have straight : Row.decode .whole (.object start fields) = .ok r ↔
      left.All (Node.Readable 126) ∧ Row.decode .buffered (.object begin left) = .ok r :=
    Shape.decode_tells Row.steady tells rest keyed
  rw [straight, decode_record_iff]
  constructor
  · rintro ⟨readable, decoded⟩
    exact ⟨_, (splits _ _).mpr ⟨readable, rfl, rfl⟩, decoded⟩
  · rintro ⟨body, split, decoded⟩
    obtain ⟨readable, -, rfl⟩ := (splits _ _).mp split
    exact ⟨readable, decoded⟩

variable {lead inner trail tag : List Char}

/-- A text has just the row that the line records which it becomes with a command at any place among its members. -/
theorem reads_record_iff (leads : Blank lead) (blank : Blank inner) (trails : Blank trail)
    (row : ∀ text ∈ before ++ after, Row.IsMember text)
    (command : Member tag (some "command", some (.string "record"))) (r : Row) :
    Row.read (String.ofList (lead ++ objectText inner (before ++ after) ++ trail)) = .ok r ↔
      Command.read (String.ofList (lead ++ objectText inner (before ++ tag :: after) ++ trail)) =
        .ok (.record r) := by
  obtain ⟨first, second⟩ := List.forall_mem_append.mp row
  obtain ⟨told, each, keyed⟩ := Row.exists_told first
  obtain ⟨beside, others, keyed'⟩ := Row.exists_told second
  have keyed : Row.Keyed (told ++ beside) := List.forall_mem_append.mpr ⟨keyed, keyed'⟩
  obtain ⟨start, fields, text, tells⟩ := ofText_objectText (List.rel_append each others) blank leads trails
  obtain ⟨begin, tagged, line, telling⟩ :=
    ofText_objectText (List.rel_append each (.cons command others)) blank leads trails
  rw [Row.read, Command.read, Json.decode, Json.decode, text, line, Document.decode_ok, Document.decode_ok,
    decode_record_tells tells telling keyed]

/-- A complete row that is recorded by a command behind its result. -/
theorem reads_record_behind_result :
    let first := ["\"status\" :\"COMPLETE\"".toList, " \"result\": \x7b \x7d ".toList]
    let second := ["\"documentId\":\"00000000-0000-0000-0000-000000000001\"".toList,
      "\n\"timestamp\": \"2026-01-01T00:00:00Z\"".toList, "\"processorId\":\"ocr\"".toList]
    let command := " \"command\" :\"record\"".toList
    ∃ row, Row.read (String.ofList (['\n'] ++ objectText [] (first ++ second) ++ [])) = .ok row ∧
      Command.read (String.ofList (['\n'] ++ objectText [] (first ++ command :: second) ++ [])) =
        .ok (.record row) ∧
      row.status = .complete := by
  intro first second command
  have row : ∀ text ∈ first ++ second, Row.IsMember text := by
    simp only [first, second, List.cons_append, List.nil_append, List.forall_mem_cons, List.not_mem_nil,
      false_imp_iff, implies_true, and_true]
    exact ⟨⟨"status", by decide, _, member_plain "status" [] [' '] [] [] (by decide) (by decide)
        (value_plain "COMPLETE" (by decide))⟩,
      ⟨"result", by decide, _, member_plain "result" [' '] [] [' '] [' '] (by decide) (by decide)
        (.emptyObject (s := [' ']) (by decide))⟩,
      ⟨"documentId", by decide, _, member_plain "documentId" [] [] [] [] (by decide) (by decide)
        (value_plain "00000000-0000-0000-0000-000000000001" (by decide))⟩,
      ⟨"timestamp", by decide, _, member_plain "timestamp" ['\n'] [] [' '] [] (by decide) (by decide)
        (value_plain "2026-01-01T00:00:00Z" (by decide))⟩,
      ⟨"processorId", by decide, _, member_plain "processorId" [] [] [] [] (by decide) (by decide)
        (value_plain "ocr" (by decide))⟩⟩
  have recording : Member command (some "command", some (.string "record")) :=
    member_plain "command" [' '] [' '] [] [] (by decide) (by decide) (value_plain "record" (by decide))
  have known : (Row.read (String.ofList (['\n'] ++ objectText [] (first ++ second) ++ []))).toOption.map Row.status =
      some .complete := by
    decide +kernel
  obtain ⟨found, read, complete⟩ := Option.map_eq_some_iff.mp known
  have read := toOption_eq_some.mp read
  exact ⟨found, read, (reads_record_iff (by decide) (by decide) (by decide) row recording found).mp read, complete⟩

end Command

end Dossier
