import Dossier.Proofs.Json.Number
import Dossier.Proofs.Json.Quotation

/-! # Reading values back

The text of a value is read as a tree that has the same parts as the value, wherever the text stands and
whatever follows it. Main statement: `readNode_print`.
-/

namespace Dossier.Json

open Reader

mutual
/-- Whether every part of a value satisfies a condition, the whole value among them. -/
def Every (p : Json → Prop) : Json → Prop
  | .array items => p (.array items) ∧ EveryItem p items
  | .object members => p (.object members) ∧ EveryMember p members
  | .null => p .null
  | .bool b => p (.bool b)
  | .number n => p (.number n)
  | .string s => p (.string s)

/-- Whether every part of some values satisfies a condition. -/
def EveryItem (p : Json → Prop) : List Json → Prop
  | [] => True
  | item :: rest => item.Every p ∧ EveryItem p rest

/-- Whether every part of the values of some members satisfies a condition. -/
def EveryMember (p : Json → Prop) : List (String × Json) → Prop
  | [] => True
  | (_, value) :: rest => value.Every p ∧ EveryMember p rest
end

/-- Whether a value is no number but one that its text parses back to. -/
def KeepsNumber : Json → Prop
  | .number n => n.ReadsBack
  | _ => True

mutual
/-- Whether a tree has the parts of a value, no matter where they stand. -/
inductive Node.Spells : Node → Json → Prop
  | null {start stop} : Node.Spells (.null start stop) .null
  | bool {b start stop} : Node.Spells (.bool b start stop) (.bool b)
  | number {n start stop} : Node.Spells (.number start (.ok n) (.ok stop)) (.number n)
  | string {s start stop} : Node.Spells (.string start (.ok s) (.ok stop)) (.string s)
  | array {start items values} : Items.Spells items values →
      Node.Spells (.array start items) (.array values)
  | object {start fields members} : Fields.Spells fields members →
      Node.Spells (.object start fields) (.object members)

/-- Whether trees have the parts of values. -/
inductive Items.Spells : Items → List Json → Prop
  | nil {stop} : Items.Spells (.stop (.closed stop)) []
  | cons {node rest value values} : Node.Spells node value → Items.Spells rest values →
      Items.Spells (.item node rest) (value :: values)

/-- Whether trees behind keys have the parts of the values of members. -/
inductive Fields.Spells : Fields → List (String × Json) → Prop
  | nil {stop} : Fields.Spells (.stop (.closed stop)) []
  | cons {start key next closes node rest value members} : Node.Spells node value →
      Fields.Spells rest members →
      Fields.Spells (.field ⟨start, .ok key, next, closes⟩ node rest) ((key, value) :: members)
end

theorem skipSpace_cons {c : Char} (visible : isSpace c = false) (p : Position) (s : List Char) :
    skipSpace p (c :: s) = ⟨p, c :: s⟩ := by
  rw [skipSpace, visible]
  rfl

/-- Whether a text begins with something that is neither blank nor the end of an array. -/
def BeginsValue (s : List Char) : Prop :=
  ∃ c rest, s = c :: rest ∧ c ≠ ']' ∧ isSpace c = false

theorem BeginsValue.append {s : List Char} (h : BeginsValue s) (rest : List Char) :
    BeginsValue (s ++ rest) := by
  obtain ⟨c, s, rfl, bracket, visible⟩ := h
  exact ⟨c, s ++ rest, rfl, bracket, visible⟩

theorem BeginsValue.skipSpace {s : List Char} (h : BeginsValue s) (p : Position) :
    skipSpace p s = ⟨p, s⟩ := by
  obtain ⟨c, s, rfl, -, visible⟩ := h
  exact skipSpace_cons visible p s

theorem beginsValue_print {json : Json} (keeps : json.Every KeepsNumber) : BeginsValue json.print := by
  cases json with
  | number n => exact Number.ReadsBack.first keeps
  | bool b => cases b <;> exact ⟨_, _, rfl, by decide, by decide⟩
  | null | string | array | object => exact ⟨_, _, rfl, by decide, by decide⟩

theorem beginsValue_printItems {item : Json} {rest : List Json}
    (keeps : EveryItem KeepsNumber (item :: rest)) : BeginsValue (printItems (item :: rest)) := by
  have first := beginsValue_print keeps.1
  cases rest with
  | nil => exact first.append _
  | cons next rest => exact first.append _

theorem ends_comma (s : List Char) : Numeral.Ends (',' :: s) := by
  intro c member
  cases member
  decide

theorem ends_bracket (s : List Char) : Numeral.Ends (']' :: s) := by
  intro c member
  cases member
  decide

theorem ends_brace (s : List Char) : Numeral.Ends ('}' :: s) := by
  intro c member
  cases member
  decide

theorem readString_print (text : String) (p : Position) (rest : List Char) :
    ∃ stop, readString p (text.toList.flatMap escape ++ '"' :: rest) =
      (.string p (.ok text) (.ok stop), some ⟨stop, rest⟩) := by
  obtain ⟨stop, read⟩ := readQuotation_print text p rest
  refine ⟨stop, ?_⟩
  simp only [readString, read, Except.map]

/-- The text of a string behind its opening quote. -/
theorem printString_append (text : String) (rest : List Char) :
    printString text ++ rest = '"' :: (text.toList.flatMap escape ++ '"' :: rest) := by
  simp [printString]

variable {fuel : Nat} {p q : Position} {node : Node} {s t rest : List Char}

theorem readFirstItem_begins (begins : BeginsValue s) :
    readFirstItem (fuel + 1) ⟨p, s⟩ = readItem fuel ⟨p, s⟩ := by
  obtain ⟨c, s, rfl, bracket, -⟩ := begins
  rw [readFirstItem]
  split
  · contradiction
  · rename_i same
    exact absurd (List.cons.inj same).1 bracket
  · rfl

/-- The last item of an array. -/
theorem readItem_last (read : readNode (fuel + 1) ⟨p, s⟩ = (node, some ⟨q, ']' :: rest⟩)) :
    readItem (fuel + 2) ⟨p, s⟩ =
      (.item node (.stop (.closed (q.skip 1))), some ⟨q.skip 1, rest⟩) := by
  rw [readItem, read]
  rfl

/-- An item of an array with more of them behind it. -/
theorem readItem_more (read : readNode (fuel + 1) ⟨p, s⟩ = (node, some ⟨q, ',' :: t⟩))
    (begins : BeginsValue t) :
    readItem (fuel + 2) ⟨p, s⟩ =
      (.item node (readItem fuel ⟨q.skip 1, t⟩).1, (readItem fuel ⟨q.skip 1, t⟩).2) := by
  have behind : readItemsBehind (fuel + 1) ⟨q, ',' :: t⟩ = readItem fuel ⟨q.skip 1, t⟩ := by
    rw [readItemsBehind]
    simp only [begins.skipSpace]
    obtain ⟨c, t, rfl, bracket, -⟩ := begins
    split
    · contradiction
    · rename_i same
      exact absurd (List.cons.inj same).1 bracket
    · rfl
  rw [readItem, read]
  simp only [skipSpace_cons (show isSpace ',' = false from rfl), behind]

variable {key : String}

/-- The last member of an object. -/
theorem readField_last (quoted : readQuotation p s = (.ok key, .ok (q, ':' :: t)))
    (begins : BeginsValue t) {stop : Position}
    (read : readNode (fuel + 1) ⟨q.skip 1, t⟩ = (node, some ⟨stop, '}' :: rest⟩)) :
    readField (fuel + 2) p s =
      (.field ⟨p, .ok key, q, false⟩ node (.stop (.closed (stop.skip 1))),
        some ⟨stop.skip 1, rest⟩) := by
  rw [readField, quoted]
  simp only [skipSpace_cons (show isSpace ':' = false from rfl), begins.skipSpace, read,
    skipSpace_cons (show isSpace '}' = false from rfl)]
  rfl

/-- A member of an object with more of them behind it. -/
theorem readField_more (quoted : readQuotation p s = (.ok key, .ok (q, ':' :: t)))
    (begins : BeginsValue t) {stop : Position} {more : List Char}
    (read : readNode (fuel + 1) ⟨q.skip 1, t⟩ = (node, some ⟨stop, ',' :: '"' :: more⟩)) :
    readField (fuel + 2) p s =
      (.field ⟨p, .ok key, q, false⟩ node (readField fuel (stop.skip 1) more).1,
        (readField fuel (stop.skip 1) more).2) := by
  rw [readField, quoted]
  simp only [skipSpace_cons (show isSpace ':' = false from rfl), begins.skipSpace, read,
    skipSpace_cons (show isSpace ',' = false from rfl)]
  rfl

theorem length_print_pos {json : Json} (keeps : json.Every KeepsNumber) : 0 < json.print.length := by
  obtain ⟨c, s, first, -⟩ := beginsValue_print keeps
  rw [first]
  exact Nat.succ_pos _

theorem exists_succ_succ {n : Nat} (h : 2 ≤ n) : ∃ less, n = less + 2 :=
  ⟨n - 2, by omega⟩

mutual
/-- Reading the text of a value gives a tree that spells the value, and stops right behind the text. -/
theorem readNode_print {json : Json} (keeps : json.Every KeepsNumber) {rest : List Char}
    (ends : Numeral.Ends rest) (fuel : Nat) (enough : 4 * json.print.length ≤ fuel) (p : Position) :
    ∃ node stop, readNode fuel ⟨p, json.print ++ rest⟩ = (node, some ⟨stop, rest⟩) ∧
      node.Spells json := by
  obtain ⟨fuel, rfl⟩ := exists_succ_succ (n := fuel) (by have := length_print_pos keeps; omega)
  cases json with
  | null => exact ⟨_, _, rfl, .null⟩
  | bool b =>
      cases b with
      | true => exact ⟨_, _, rfl, .bool⟩
      | false => exact ⟨_, _, rfl, .bool⟩
  | number n =>
      obtain ⟨stop, read⟩ := readNode_number keeps ends (fuel + 1) p
      exact ⟨_, stop, read, .number⟩
  | string text =>
      obtain ⟨stop, read⟩ := readString_print text p rest
      rw [print, printString_append]
      exact ⟨_, stop, read, .string⟩
  | array items =>
      cases items with
      | nil => exact ⟨_, _, rfl, .array .nil⟩
      | cons item items =>
          have begins := (beginsValue_printItems keeps.2).append rest
          obtain ⟨found, stop, read, spells⟩ := readItem_print keeps.2 rest fuel
            (by simp only [print, List.length_cons] at enough; omega) (p.skip 1)
          refine ⟨.array p found, stop, ?_, .array spells⟩
          simp only [print, List.cons_append, readNode, begins.skipSpace, readFirstItem_begins begins,
            read]
  | object members =>
      match whole : members with
      | [] => exact ⟨_, _, rfl, .object .nil⟩
      | (key, value) :: members =>
          obtain ⟨text, same, found, stop, read, spells⟩ := readField_print keeps.2 rest fuel
            (by simp only [print, List.length_cons] at enough; omega) (p.skip 1)
          refine ⟨.object p found, stop, ?_, .object spells⟩
          simp only [print, List.cons_append, readNode, same,
            skipSpace_cons (show isSpace '"' = false from rfl), readFirstField, read]
termination_by sizeOf json

theorem readItem_print {item : Json} {items : List Json}
    (keeps : EveryItem KeepsNumber (item :: items)) (rest : List Char) (fuel : Nat)
    (enough : 4 * (printItems (item :: items)).length ≤ fuel) (p : Position) :
    ∃ found stop, readItem fuel ⟨p, printItems (item :: items) ++ rest⟩ =
      (found, some ⟨stop, rest⟩) ∧ found.Spells (item :: items) := by
  have pos := length_print_pos keeps.1
  cases items with
  | nil =>
      simp only [printItems, List.length_append, List.length_cons, List.length_nil] at enough
      obtain ⟨fuel, rfl⟩ := exists_succ_succ (n := fuel) (by omega)
      obtain ⟨node, stop, read, spells⟩ :=
        readNode_print keeps.1 (ends_bracket rest) (fuel + 1) (by omega) p
      refine ⟨.item node (.stop (.closed (stop.skip 1))), stop.skip 1, ?_, .cons spells .nil⟩
      rw [printItems, List.append_assoc]
      exact readItem_last read
  | cons next items =>
      simp only [printItems, List.length_append, List.length_cons] at enough
      obtain ⟨fuel, rfl⟩ := exists_succ_succ (n := fuel) (by omega)
      have begins := (beginsValue_printItems keeps.2).append rest
      obtain ⟨node, stop, read, spells⟩ :=
        readNode_print keeps.1 (ends_comma (printItems (next :: items) ++ rest)) (fuel + 1)
          (by omega) p
      obtain ⟨found, last, more, others⟩ :=
        readItem_print keeps.2 rest fuel (by omega) (stop.skip 1)
      refine ⟨.item node found, last, ?_, .cons spells others⟩
      simp only [printItems, List.append_assoc, List.cons_append]
      rw [readItem_more read begins, more]
termination_by sizeOf (item :: items)

theorem readField_print {key : String} {value : Json} {members : List (String × Json)}
    (keeps : EveryMember KeepsNumber ((key, value) :: members)) (rest : List Char) (fuel : Nat)
    (enough : 4 * (printMembers ((key, value) :: members)).length ≤ fuel) (p : Position) :
    ∃ text, printMembers ((key, value) :: members) ++ rest = '"' :: text ∧
      ∃ found stop, readField fuel p text = (found, some ⟨stop, rest⟩) ∧
        found.Spells ((key, value) :: members) := by
  have pos := length_print_pos keeps.1
  have begins := beginsValue_print keeps.1
  match whole : members with
  | [] =>
      simp only [printMembers, List.length_append, List.length_cons, List.length_nil] at enough
      obtain ⟨fuel, rfl⟩ := exists_succ_succ (n := fuel) (by omega)
      obtain ⟨next, quoted⟩ := readQuotation_print key p (':' :: (value.print ++ '}' :: rest))
      obtain ⟨node, stop, read, spells⟩ :=
        readNode_print keeps.1 (ends_brace rest) (fuel + 1) (by omega) (next.skip 1)
      refine ⟨_, ?_, _, _, readField_last quoted (begins.append _) read, .cons spells .nil⟩
      simp only [printMembers, List.append_assoc, printString_append, List.cons_append,
        List.nil_append]
  | (later, further) :: members =>
      simp only [printMembers, List.length_append, List.length_cons] at enough
      obtain ⟨fuel, rfl⟩ := exists_succ_succ (n := fuel) (by omega)
      obtain ⟨next, quoted⟩ := readQuotation_print key p
        (':' :: (value.print ++ ',' :: (printMembers ((later, further) :: members) ++ rest)))
      obtain ⟨node, stop, read, spells⟩ := readNode_print keeps.1
        (ends_comma (printMembers ((later, further) :: members) ++ rest)) (fuel + 1) (by omega)
        (next.skip 1)
      obtain ⟨text, same, found, last, more, others⟩ :=
        readField_print keeps.2 rest fuel (by omega) (stop.skip 1)
      rw [same] at quoted read
      have all := readField_more quoted (begins.append _) read
      rw [more] at all
      refine ⟨_, ?_, _, _, all, .cons spells others⟩
      simp only [printMembers, List.append_assoc, printString_append, List.cons_append, same]
termination_by sizeOf ((key, value) :: members)
end

end Dossier.Json
