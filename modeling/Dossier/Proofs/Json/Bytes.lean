import Dossier.Json.Bytes
import Dossier.Proofs.Json.Reading

/-! # Decoding bytes

Bytes that are text are decoded as the text. Other bytes say nothing that they do not say with their bad spots replaced,
and what is passed over may have any. Main statements: `decodeBytes_of_text` and `Mendable.decodeBytes`.
-/

namespace Dossier

open Json

/-- Bytes that are text have the characters of the text, and no bad spots. -/
theorem Text.units_of_text {bytes : List UInt8} {text : String} (legible : ofUtf8? bytes = some text) :
    units none bytes = text.toList.map some := by
  obtain ⟨chars, all, rfl⟩ := Option.map_eq_some_iff.mp legible
  rw [String.toList_ofList]
  clear legible
  generalize units none bytes = found at all
  induction found generalizing chars with
  | nil =>
      cases all
      rfl
  | cons unit found ih =>
      simp only [List.mapM_cons, Option.bind_eq_bind, Option.bind_eq_some_iff, id] at all
      obtain ⟨c, rfl, rest, others, same⟩ := all
      cases same
      rw [ih rest others]
      rfl

theorem Text.replaced_of_text {bytes : List UInt8} {text : String} (legible : ofUtf8? bytes = some text) :
    replaced bytes = text := by
  simp [replaced, units_of_text legible, Function.comp_def]

namespace Json

variable {α δ : Type} {spots : List Position}

theorem badSpots_map_some (p : Position) (chars : List Char) : badSpots p (chars.map some) = [] := by
  induction chars generalizing p with
  | nil => rfl
  | cons c chars ih => exact ih (p.past c)

theorem Key.blot_nil (key : Key) : key.blot [] = key := by
  cases key with
  | mk start read next closes => cases read <;> rfl

mutual
/-- Without bad spots a value stays as it is. -/
theorem Node.blot_nil (node : Node) : node.blot [] = node := by
  match node with
  | .string start read (.ok stop) =>
      cases read <;> rfl
  | .string start read (.error fault) => rfl
  | .array start items => rw [Node.blot, items.blot_nil]
  | .object start members => rw [Node.blot, members.blot_nil]
  | .broken _ _ | .null _ _ | .bool _ _ _ | .number _ _ _ => rfl

theorem Items.blot_nil (items : Items) : items.blot [] = items := by
  match items with
  | .stop tail => rfl
  | .item node rest => rw [Items.blot, node.blot_nil, rest.blot_nil]

theorem Fields.blot_nil (fields : Fields) : fields.blot [] = fields := by
  match fields with
  | .stop tail => rfl
  | .field key value rest => rw [Fields.blot, key.blot_nil, value.blot_nil, rest.blot_nil]
end

/-- Bytes that are text are decoded as the text. -/
theorem decodeBytes_of_text {bytes : List UInt8} {text : String} (legible : Text.ofUtf8? bytes = some text)
    (decoder : Decoder α) : decodeBytes decoder bytes = decode decoder text := by
  have same : Document.ofBytes bytes = Document.ofText text := by
    rw [Document.ofBytes, Text.replaced_of_text legible, Text.units_of_text legible, badSpots_map_some]
    simp only [Node.blot_nil]
  rw [decodeBytes, decode, same]

mutual
/-- One who passes over a value does not mind its bad spots. -/
theorem Node.skip_blot (node : Node) : (node.blot spots).skip = node.skip := by
  match node with
  | .string _ _ (.ok _) | .string _ _ (.error _) => rfl
  | .array start items => exact items.skip_blot
  | .object start members => exact members.skip_blot
  | .broken _ _ | .null _ _ | .bool _ _ _ | .number _ _ _ => rfl

theorem Items.skip_blot (items : Items) : (items.blot spots).skip = items.skip := by
  match items with
  | .stop tail => rfl
  | .item node rest => rw [Items.blot, Items.skip, node.skip_blot, rest.skip_blot, Items.skip]

theorem Fields.skip_blot (fields : Fields) : (fields.blot spots).skip = fields.skip := by
  match fields with
  | .stop tail => rfl
  | .field key value rest => rw [Fields.blot, Fields.skip, value.skip_blot, rest.skip_blot, Fields.skip]
end

theorem blotted_ok {start stop : Position} {text found : String} (h : blotted spots start stop text = .ok found) :
    found = text := by
  unfold blotted at h
  split at h
  · cases h
  · cases h
    rfl

theorem read_of_blotted {read : Except Fault String} {start stop : Position} {text : String}
    (h : (read >>= blotted spots start stop) = .ok text) : read = .ok text := by
  obtain ⟨found, rfl, same⟩ := bind_eq_ok.mp h
  rw [blotted_ok same]

mutual
theorem Node.read_of_blot {node : Node} {room : Nat} {json : Json} (h : (node.blot spots).read room = .ok json) :
    node.read room = .ok json := by
  match node with
  | .string start read (.ok stop) =>
      obtain ⟨text, same, rfl⟩ := map_eq_ok.mp h
      rw [read_of_blotted same]
      rfl
  | .array start items =>
      simp only [Node.blot, Node.read, bind_eq_ok] at h ⊢
      obtain ⟨room, enter, values, read, same⟩ := h
      exact ⟨room, enter, values, items.read_of_blot read, same⟩
  | .object start members =>
      simp only [Node.blot, Node.read, bind_eq_ok] at h ⊢
      obtain ⟨room, enter, values, read, same⟩ := h
      exact ⟨room, enter, values, members.read_of_blot read, same⟩
  | .string _ _ (.error _) | .broken _ _ | .null _ _ | .bool _ _ _ | .number _ _ _ => exact h

theorem Items.read_of_blot {items : Items} {room : Nat} {values : List Json}
    (h : (items.blot spots).read room = .ok values) : items.read room = .ok values := by
  match items with
  | .stop tail => exact h
  | .item node rest =>
      simp only [Items.blot, Items.read, bind_eq_ok] at h ⊢
      obtain ⟨value, first, values, others, same⟩ := h
      exact ⟨value, node.read_of_blot first, values, rest.read_of_blot others, same⟩

theorem Fields.read_of_blot {fields : Fields} {room : Nat} {earlier members : Members}
    (h : (fields.blot spots).read room earlier = .ok members) : fields.read room earlier = .ok members := by
  match fields with
  | .stop tail => exact h
  | .field key value rest =>
      simp only [Fields.blot, Fields.read, bind_eq_ok, Key.blot] at h ⊢
      obtain ⟨name, known, json, first, others⟩ := h
      exact ⟨name, read_of_blotted (by simpa only [bind_eq_ok] using known), json, value.read_of_blot first,
        rest.read_of_blot others⟩
end

/-- Whether a decoder finds in values without bad spots all that it finds in those with some. -/
def Mendable (decoder : Decoder α) : Prop :=
  ∀ {spots stage} {node : Node} {a}, decoder stage (node.blot spots) = .ok a → decoder stage node = .ok a

/-- What bytes say they say with their bad spots replaced as well. -/
theorem Mendable.decodeBytes {decoder : Decoder α} (mendable : Mendable decoder) {bytes : List UInt8} {a : α}
    (h : decodeBytes decoder bytes = .ok a) : decode decoder (Text.replaced bytes) = .ok a := by
  obtain ⟨decoded, trailing⟩ := Document.decode_ok.mp h
  exact Document.decode_ok.mpr ⟨mendable decoded, trailing⟩

theorem mendable_text {expected : String} {read : String → Except Cause α} :
    Mendable (decodeText expected read) := by
  intro spots stage node a h
  match node with
  | .string start (.ok text) (.ok stop) =>
      rw [Node.blot] at h
      cases found : (Except.ok text >>= blotted spots start stop : Except Fault String) with
      | error fault =>
          rw [found] at h
          cases h
      | ok same =>
          rw [found] at h
          obtain rfl := blotted_ok found
          exact h
  | .string _ (.error _) (.ok _) | .string _ (.ok _) (.error _) | .string _ (.error _) (.error _) | .array _ _
  | .object _ _ | .broken _ _ | .null _ _ | .bool _ _ _ | .number _ _ _ => cases h

theorem mendable_members {expected : String} : Mendable (decodeMembers expected) := by
  intro spots stage node a h
  match node with
  | .object start members =>
      simp only [Node.blot, decodeMembers, bind_eq_ok] at h ⊢
      obtain ⟨inner, enter, read⟩ := h
      exact ⟨inner, enter, members.read_of_blot read⟩
  | .string _ _ (.ok _) | .string _ _ (.error _) | .array _ _ | .broken _ _ | .null _ _ | .bool _ _ _
  | .number _ _ _ => cases h

namespace Shape

/-- Whether a slot is filled with what it finds in values without bad spots. -/
def Mendable (slot : Slot δ) : Prop :=
  ∀ {spots stage} {node : Node} {draft filled}, slot.fill stage (node.blot spots) draft = .ok filled →
    slot.fill stage node draft = .ok filled

theorem mendable_of {name : String} {optional : Bool} {get : δ → Option α} {set : δ → α → δ}
    {decode : Decoder α} (mendable : Json.Mendable decode) : Mendable (.of name optional get set decode) := by
  intro spots stage node draft filled h
  obtain ⟨a, decoded, rfl⟩ := map_eq_ok.mp h
  exact map_eq_ok.mpr ⟨a, mendable decoded, rfl⟩

variable {shape : Shape δ α} {stage : Stage}

theorem fillFields_of_blot (mendable : ∀ slot ∈ shape.slots, Mendable slot) {fields : Fields} {draft : δ}
    {result : δ × Position} (h : shape.fillFields stage (fields.blot spots) draft = .ok result) :
    shape.fillFields stage fields draft = .ok result := by
  match fields with
  | .stop tail => exact h
  | .field key value rest =>
      simp only [Fields.blot, fillFields, bind_eq_ok] at h ⊢
      obtain ⟨name, known, h⟩ := h
      refine ⟨name, read_of_blotted known, ?_⟩
      split at h
      · simp only [bind_eq_ok] at h ⊢
        obtain ⟨_, passed, h⟩ := h
        refine ⟨(), ?_, fillFields_of_blot mendable h⟩
        cases stage with
        | text room => exact (@Node.skip_blot spots value).symm.trans passed
        | buffered => rfl
      · rename_i slot found
        split at h
        · cases h
        · rename_i free
          simp only [bind_eq_ok] at h
          obtain ⟨next, fill, h⟩ := h
          rw [if_neg free]
          exact bind_eq_ok.mpr
            ⟨next, mendable slot (List.mem_of_find?_eq_some found) fill, fillFields_of_blot mendable h⟩

theorem fillItems_of_blot (mendable : ∀ slot ∈ shape.slots, Mendable slot) {index : Nat} {slots : List (Slot δ)}
    (known : ∀ slot ∈ slots, slot ∈ shape.slots) {items : Items} {draft filled : δ}
    (h : shape.fillItems stage index slots (items.blot spots) draft = .ok filled) :
    shape.fillItems stage index slots items draft = .ok filled := by
  induction slots generalizing index items draft with
  | nil =>
      cases items with
      | stop tail => exact h
      | item node rest => cases stage <;> cases h
  | cons slot slots ih =>
      obtain ⟨member, others⟩ := List.forall_mem_cons.mp known
      cases items with
      | stop tail => exact h
      | item node rest =>
          simp only [Items.blot, fillItems, bind_eq_ok] at h ⊢
          obtain ⟨next, fill, h⟩ := h
          exact ⟨next, mendable slot member fill, ih others h⟩

theorem mendable_decode (mendable : ∀ slot ∈ shape.slots, Mendable slot) : Json.Mendable shape.decode := by
  intro spots stage node a h
  match node with
  | .object start fields =>
      simp only [Node.blot, decode, bind_eq_ok] at h ⊢
      obtain ⟨inner, enter, found, filled, finish⟩ := h
      exact ⟨inner, enter, found, fillFields_of_blot mendable filled, finish⟩
  | .array start items =>
      simp only [Node.blot, decode, bind_eq_ok] at h ⊢
      obtain ⟨inner, enter, draft, filled, finish⟩ := h
      exact ⟨inner, enter, draft, fillItems_of_blot mendable (fun _ member => member) filled, finish⟩
  | .string _ _ (.ok _) | .string _ _ (.error _) | .broken _ _ | .null _ _ | .bool _ _ _ | .number _ _ _ => cases h

end Shape

end Json

end Dossier
