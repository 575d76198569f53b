import Dossier.Json.Decode
import Dossier.Proofs.Json.Spelling

/-! # Decoding printed values

A tree that spells a value is read as that value, if there is room for its nesting and its members stand in
order. A decoder that makes something of every such tree makes it of the text of the value. Main
statements: `Node.Spells.read` and `decode_text`.
-/

namespace Dossier.Json

mutual
/-- How deep arrays and objects nest in a value. -/
def depth : Json → Nat
  | .array items => depthOfItems items + 1
  | .object members => depthOfMembers members + 1
  | .null | .bool _ | .number _ | .string _ => 0

/-- How deep arrays and objects nest in the deepest of some values. -/
def depthOfItems : List Json → Nat
  | [] => 0
  | item :: rest => max item.depth (depthOfItems rest)

/-- How deep arrays and objects nest in the deepest of the values of some members. -/
def depthOfMembers : List (String × Json) → Nat
  | [] => 0
  | (_, value) :: rest => max value.depth (depthOfMembers rest)
end

/-- Whether members stand in the order of their keys, each key once. -/
def Members.Ordered (members : Members) : Prop :=
  members.Pairwise fun a b => a.1 < b.1

/-- Whether a value is no object but one whose members stand in order. -/
def KeepsOrder : Json → Prop
  | .object members => Members.Ordered members
  | _ => True

/-- A member whose key is greater than all the others is put behind them. -/
theorem Members.insert_append {members : Members} {key : String} (value : Json)
    (less : ∀ member ∈ members, member.1 < key) :
    members.insert key value = members ++ [(key, value)] := by
  induction members with
  | nil => rfl
  | cons member members ih =>
      obtain ⟨first, rest⟩ := List.forall_mem_cons.mp less
      have notBefore : ¬key < member.1 := String.lt_asymm first
      have notSame : key ≠ member.1 := (String.ne_of_lt first).symm
      rw [Members.insert, if_neg notBefore, if_neg notSame, ih rest]
      rfl

theorem deeper_of_lt {depth room : Nat} (start : Position) (fits : depth + 1 ≤ room) :
    ∃ less, deeper room start = .ok less ∧ depth ≤ less := by
  cases room with
  | zero => omega
  | succ room => exact ⟨room, rfl, by omega⟩

mutual
/-- A tree is read as the value that it spells. -/
theorem Node.Spells.read {node : Node} {json : Json} (spells : node.Spells json)
    (ordered : json.Every KeepsOrder) {room : Nat} (fits : json.depth ≤ room) :
    node.read room = .ok json := by
  cases spells with
  | null | bool | number | string => rfl
  | array items =>
      obtain ⟨less, enter, fits⟩ := deeper_of_lt _ fits
      rw [Node.read, enter]
      simp only [bind, Except.bind, items.read ordered.2 fits]
      rfl
  | object members =>
      obtain ⟨less, enter, fits⟩ := deeper_of_lt _ fits
      rw [Node.read, enter]
      simp only [bind, Except.bind, members.read ordered.2 fits [] ordered.1, List.nil_append]
      rfl

theorem Items.Spells.read {items : Items} {values : List Json} (spells : items.Spells values)
    (ordered : EveryItem KeepsOrder values) {room : Nat} (fits : depthOfItems values ≤ room) :
    items.read room = .ok values := by
  cases spells with
  | nil => rfl
  | cons item rest =>
      rw [depthOfItems, Nat.max_le] at fits
      rw [Items.read, item.read ordered.1 fits.1, rest.read ordered.2 fits.2]
      rfl

theorem Fields.Spells.read {fields : Fields} {members : List (String × Json)}
    (spells : fields.Spells members) (ordered : EveryMember KeepsOrder members) {room : Nat}
    (fits : depthOfMembers members ≤ room) (earlier : Members)
    (inOrder : Members.Ordered (earlier ++ members)) :
    fields.read room earlier = .ok (earlier ++ members) := by
  cases spells with
  | nil =>
      rw [List.append_nil]
      rfl
  | cons value rest =>
      rename_i start key next closes node fields json members
      rw [depthOfMembers, Nat.max_le] at fits
      have less : ∀ member ∈ earlier, member.1 < key := fun member old =>
        (List.pairwise_append.mp inOrder).2.2 member old (key, json) List.mem_cons_self
      have inserted := Members.insert_append json less
      rw [Fields.read, value.read ordered.1 fits.1]
      simp only [bind, Except.bind]
      rw [inserted, rest.read ordered.2 fits.2 _ (by rwa [List.append_assoc]), List.append_assoc]
      rfl
end

variable {α : Type}

/-- What a decoder makes of all trees of a value it makes of the text of the value. -/
theorem decode_text {decoder : Decoder α} {json : Json} {a : α} (keeps : json.Every KeepsNumber)
    (decodes : ∀ node, node.Spells json → decoder .whole node = .ok a) :
    Json.decode decoder json.text = .ok a := by
  obtain ⟨node, stop, read, spells⟩ := readNode_print keeps Numeral.ends_nil
    (4 * json.print.length + 4) (by omega) .start
  rw [List.append_nil] at read
  simp only [Json.decode, Document.decode_ok, Document.ofText, Json.text, String.toList_ofList,
    (beginsValue_print keeps).skipSpace, read]
  exact ⟨decodes node spells, rfl⟩

theorem enter_of_lt {depth room : Nat} (start : Position) (fits : depth + 1 ≤ room) :
    ∃ less, (Stage.text room).enter start = .ok (.text less) ∧ depth ≤ less := by
  obtain ⟨less, enter, fits⟩ := deeper_of_lt start fits
  exact ⟨less, by rw [Stage.enter, enter]; rfl, fits⟩

theorem decodeText_ok {expected text : String} {read : String → Except Cause α} {a : α}
    (understood : read text = .ok a) (stage : Stage) {node : Node}
    (spells : node.Spells (.string text)) : decodeText expected read stage node = .ok a := by
  cases spells
  rw [decodeText, understood]
  rfl

theorem decodeMembers_ok {expected : String} {members : Members} {node : Node}
    (spells : node.Spells (.object members)) (ordered : (object members).Every KeepsOrder)
    {room : Nat} (fits : (object members).depth ≤ room) :
    decodeMembers expected (.text room) node = .ok members := by
  cases spells with
  | @object start _ _ fields =>
      obtain ⟨less, enter, fits⟩ := enter_of_lt start fits
      simp only [decodeMembers, enter, bind, Except.bind, Stage.room]
      exact fields.read ordered.2 fits [] ordered.1

namespace Shape

variable {δ : Type} {shape : Shape δ α} {stage inner : Stage} {draft next : δ}

/-- A field that the record has and that is not filled yet is filled. -/
theorem fillFields_field {slot : Slot δ} {key : String} {start p : Position} {closes : Bool} {node : Node}
    {rest : Fields} (known : shape.slots.find? (·.name == key) = some slot)
    (free : slot.filled draft = false) (fills : slot.fill stage node draft = .ok next) :
    shape.fillFields stage (.field ⟨start, .ok key, p, closes⟩ node rest) draft =
      shape.fillFields stage rest next := by
  rw [fillFields]
  simp only [bind, Except.bind, known, free, fills, Bool.false_eq_true, if_false]

theorem decode_object {start stop : Position} {fields : Fields} {a : α}
    (enter : stage.enter start = .ok inner)
    (filled : shape.fillFields inner fields shape.blank = .ok (draft, stop))
    (finish : shape.finish draft = .ok a) :
    shape.decode stage (.object start fields) = .ok a := by
  rw [decode]
  simp only [enter, bind, Except.bind, filled, finish]
  rfl

end Shape

end Dossier.Json
