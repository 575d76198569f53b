import Dossier.Proofs.Json.Decoding

/-! # What readers give

A value that is read keeps its members in order and nests no deeper than there was room. A record is decoded
from a draft that was filled by its slots alone, from the parts of a tree, so what every slot preserves holds of
the draft. Main statements: `Node.read_ok` and `Shape.decode_within`.
-/

namespace Dossier.Json

theorem Members.mem_insert {key : String} {value : Json} {members : Members} {member : String × Json}
    (h : member ∈ members.insert key value) : member = (key, value) ∨ member ∈ members := by
  fun_induction Members.insert key value members with
  | case1 => exact .inl (List.mem_singleton.mp h)
  | case2 => exact List.mem_cons.mp h
  | case3 =>
      rcases List.mem_cons.mp h with new | old
      · exact .inl new
      · exact .inr (List.mem_cons_of_mem _ old)
  | case4 k v rest _ _ ih =>
      rcases List.mem_cons.mp h with rfl | other
      · exact .inr List.mem_cons_self
      · rcases ih other with new | old
        · exact .inl new
        · exact .inr (List.mem_cons_of_mem _ old)

theorem Members.Ordered.insert {members : Members} (ordered : members.Ordered) (key : String)
    (value : Json) : (members.insert key value).Ordered := by
  fun_induction Members.insert key value members with
  | case1 => exact List.pairwise_singleton _ _
  | case2 k v rest less =>
      obtain ⟨first, others⟩ := List.pairwise_cons.mp ordered
      refine List.pairwise_cons.mpr ⟨fun member old => ?_, ordered⟩
      rcases List.mem_cons.mp old with rfl | later
      · exact less
      · exact String.lt_trans less (first member later)
  | case3 v rest =>
      obtain ⟨first, others⟩ := List.pairwise_cons.mp ordered
      exact List.pairwise_cons.mpr ⟨first, others⟩
  | case4 k v rest notLess other ih =>
      obtain ⟨first, others⟩ := List.pairwise_cons.mp ordered
      have greater : k < key := Std.lt_of_le_of_ne (String.not_lt.mp notLess) (Ne.symm other)
      refine List.pairwise_cons.mpr ⟨fun member inserted => ?_, ih others⟩
      rcases mem_insert inserted with rfl | old
      · exact greater
      · exact first member old

theorem everyMember_iff {p : Json → Prop} {members : List (String × Json)} :
    EveryMember p members ↔ ∀ member ∈ members, member.2.Every p := by
  induction members with
  | nil => simp [EveryMember]
  | cons member members ih => simp [EveryMember, ih]

theorem depthOfMembers_le {members : List (String × Json)} {room : Nat} :
    depthOfMembers members ≤ room ↔ ∀ member ∈ members, member.2.depth ≤ room := by
  induction members with
  | nil => simp [depthOfMembers]
  | cons member members ih =>
      rw [depthOfMembers, Nat.max_le]
      simp [ih]

theorem deeper_ok {room less : Nat} {start : Position} (h : deeper room start = .ok less) :
    room = less + 1 := by
  cases room with
  | zero => cases h
  | succ room =>
      cases h
      rfl

mutual
/-- A value that is read keeps its members in order and fits the room. -/
theorem Node.read_ok {node : Node} {room : Nat} {json : Json} (h : node.read room = .ok json) :
    json.Every KeepsOrder ∧ json.depth ≤ room := by
  cases node with
  | broken => cases h
  | null | bool =>
      cases h
      exact ⟨trivial, Nat.zero_le room⟩
  | number | string =>
      obtain ⟨_, -, rfl⟩ := map_eq_ok.mp h
      exact ⟨trivial, Nat.zero_le room⟩
  | array start items =>
      simp only [Node.read, bind_eq_ok] at h
      obtain ⟨less, enter, values, read, same⟩ := h
      cases same
      obtain ⟨ordered, fits⟩ := Items.read_ok read
      rw [deeper_ok enter]
      exact ⟨⟨trivial, ordered⟩, Nat.succ_le_succ fits⟩
  | object start fields =>
      simp only [Node.read, bind_eq_ok] at h
      obtain ⟨less, enter, members, read, same⟩ := h
      cases same
      obtain ⟨ordered, every, fits⟩ := Fields.read_ok read List.Pairwise.nil trivial (Nat.zero_le _)
      rw [deeper_ok enter]
      exact ⟨⟨ordered, every⟩, Nat.succ_le_succ fits⟩

theorem Items.read_ok {items : Items} {room : Nat} {values : List Json}
    (h : items.read room = .ok values) :
    EveryItem KeepsOrder values ∧ depthOfItems values ≤ room := by
  cases items with
  | stop tail =>
      rw [Items.read] at h
      split at h
      · cases h
        exact ⟨trivial, Nat.zero_le room⟩
      · cases h
  | item node rest =>
      simp only [Items.read, bind_eq_ok] at h
      obtain ⟨value, first, values, others, same⟩ := h
      cases same
      obtain ⟨ordered, fits⟩ := Node.read_ok first
      obtain ⟨orders, fit⟩ := Items.read_ok others
      exact ⟨⟨ordered, orders⟩, Nat.max_le.mpr ⟨fits, fit⟩⟩

theorem Fields.read_ok {fields : Fields} {room : Nat} {earlier members : Members}
    (h : fields.read room earlier = .ok members) (ordered : earlier.Ordered)
    (every : EveryMember KeepsOrder earlier) (fits : depthOfMembers earlier ≤ room) :
    members.Ordered ∧ EveryMember KeepsOrder members ∧ depthOfMembers members ≤ room := by
  cases fields with
  | stop tail =>
      rw [Fields.read] at h
      split at h
      · cases h
        exact ⟨ordered, every, fits⟩
      · cases h
  | field key node rest =>
      simp only [Fields.read, bind_eq_ok] at h
      obtain ⟨name, -, value, read, others⟩ := h
      obtain ⟨keeps, fit⟩ := Node.read_ok read
      rw [everyMember_iff] at every
      rw [depthOfMembers_le] at fits
      refine Fields.read_ok others (ordered.insert name value) ?_ ?_
      · apply everyMember_iff.mpr
        intro member inserted
        rcases Members.mem_insert inserted with rfl | old
        · exact keeps
        · exact every member old
      · apply depthOfMembers_le.mpr
        intro member inserted
        rcases Members.mem_insert inserted with rfl | old
        · exact fit
        · exact fits member old
end

theorem enter_ok {room : Nat} {inner : Stage} {start : Position}
    (h : (Stage.text room).enter start = .ok inner) : ∃ less, inner = .text less ∧ room = less + 1 := by
  obtain ⟨less, enter, same⟩ := map_eq_ok.mp h
  exact ⟨less, same.symm, deeper_ok enter⟩

theorem decodeMembers_reads {expected : String} {room : Nat} {node : Node} {members : Members}
    (h : decodeMembers expected (.text room) node = .ok members) :
    (object members).Every KeepsOrder ∧ (object members).depth ≤ room := by
  cases node with
  | object start fields =>
      simp only [decodeMembers, bind_eq_ok] at h
      obtain ⟨inner, enter, read⟩ := h
      obtain ⟨less, rfl, rfl⟩ := enter_ok enter
      obtain ⟨ordered, every, fits⟩ := Fields.read_ok read List.Pairwise.nil trivial (Nat.zero_le _)
      exact ⟨⟨ordered, every⟩, Nat.succ_le_succ fits⟩
  | _ => cases h

theorem decodeText_reads {α : Type} {expected : String} {read : String → Except Cause α}
    {stage : Stage} {node : Node} {a : α} (h : decodeText expected read stage node = .ok a) :
    ∃ text, read text = .ok a := by
  unfold decodeText at h
  split at h
  · exact ⟨_, mapError_eq_ok.mp h⟩
  · cases h

variable {q : Node → Prop}

def Items.All (q : Node → Prop) : Items → Prop
  | .stop _ => True
  | .item node rest => q node ∧ rest.All q

def Fields.All (q : Node → Prop) : Fields → Prop
  | .stop _ => True
  | .field _ value rest => q value ∧ rest.All q

/-- Whether something holds of all items of an array, or of the values of all members of an object. -/
def Node.Within (q : Node → Prop) : Node → Prop
  | .array _ items => items.All q
  | .object _ members => members.All q
  | .broken _ _ | .null _ _ | .bool _ _ _ | .number _ _ _ | .string _ _ _ => True

theorem Items.all_of_forall (all : ∀ node, q node) : ∀ items : Items, items.All q
  | .stop _ => trivial
  | .item node rest => ⟨all node, rest.all_of_forall all⟩

theorem Fields.all_of_forall (all : ∀ node, q node) : ∀ fields : Fields, fields.All q
  | .stop _ => trivial
  | .field _ value rest => ⟨all value, rest.all_of_forall all⟩

theorem Node.within_of_forall (all : ∀ node, q node) (node : Node) : node.Within q := by
  cases node with
  | array start items => exact items.all_of_forall all
  | object start members => exact members.all_of_forall all
  | _ => trivial

namespace Shape

variable {δ α : Type} {shape : Shape δ α} {p : δ → Prop} {stage : Stage}

/-- Whether filling a slot at a stage from some nodes preserves a condition on drafts. -/
def Keeps (stage : Stage) (q : Node → Prop) (p : δ → Prop) (slot : Slot δ) : Prop :=
  ∀ node, q node → ∀ draft next, slot.fill stage node draft = .ok next → p draft → p next

theorem keeps_of {β : Type} {name : String} {optional : Bool} {get : δ → Option β}
    {set : δ → β → δ} {decode : Decoder β}
    (keeps : ∀ node, q node → ∀ draft b, decode stage node = .ok b → p draft → p (set draft b)) :
    Keeps stage q p (.of name optional get set decode) := by
  intro node part draft next h start
  obtain ⟨b, read, rfl⟩ := map_eq_ok.mp h
  exact keeps node part draft b read start

theorem fillFields_keeps (keeps : ∀ slot ∈ shape.slots, Keeps stage q p slot) {fields : Fields}
    (parts : fields.All q) {draft filled : δ} {stop : Position}
    (h : shape.fillFields stage fields draft = .ok (filled, stop)) (start : p draft) : p filled := by
  match fields with
  | .stop tail =>
      rw [fillFields] at h
      split at h
      · cases h
        exact start
      · cases h
      · cases h
        exact start
  | .field key value rest =>
      simp only [fillFields, bind_eq_ok] at h
      obtain ⟨name, -, h⟩ := h
      split at h
      · simp only [bind_eq_ok] at h
        obtain ⟨_, -, h⟩ := h
        exact fillFields_keeps keeps parts.2 h start
      · rename_i slot found
        split at h
        · cases h
        · simp only [bind_eq_ok] at h
          obtain ⟨next, fill, h⟩ := h
          have member : slot ∈ shape.slots := List.mem_of_find?_eq_some found
          exact fillFields_keeps keeps parts.2 h (keeps slot member value parts.1 draft next fill start)

theorem fillItems_keeps (keeps : ∀ slot ∈ shape.slots, Keeps stage q p slot) {index : Nat}
    {slots : List (Slot δ)} (known : ∀ slot ∈ slots, slot ∈ shape.slots) {items : Items}
    (parts : items.All q) {draft filled : δ} (h : shape.fillItems stage index slots items draft = .ok filled)
    (start : p draft) : p filled := by
  induction slots generalizing index items draft with
  | nil =>
      rw [fillItems] at h
      obtain ⟨_, -, rfl⟩ := map_eq_ok.mp h
      exact start
  | cons slot slots ih =>
      obtain ⟨member, others⟩ := List.forall_mem_cons.mp known
      cases items with
      | item node rest =>
          simp only [fillItems, bind_eq_ok] at h
          obtain ⟨next, fill, h⟩ := h
          exact ih others parts.2 h (keeps slot member node parts.1 draft next fill start)
      | stop tail =>
          rw [fillItems] at h
          split at h
          · cases h
          · split at h
            · exact ih others parts h start
            · cases h

/-- A record that is decoded is that of a draft with all that the slots preserve when they are filled from the
parts of the tree. -/
theorem decode_within {node : Node} {a : α} (h : shape.decode stage node = .ok a) (parts : node.Within q)
    (keeps : ∀ start inner, stage.enter start = .ok inner →
      ∀ slot ∈ shape.slots, Keeps inner q p slot) (blank : p shape.blank) :
    ∃ draft, p draft ∧ shape.finish draft = .ok a := by
  cases node with
  | object start fields =>
      simp only [decode, bind_eq_ok] at h
      obtain ⟨inner, enter, ⟨draft, stop⟩, filled, finish⟩ := h
      exact ⟨draft, fillFields_keeps (keeps start inner enter) parts filled blank, mapError_eq_ok.mp finish⟩
  | array start items =>
      simp only [decode, bind_eq_ok] at h
      obtain ⟨inner, enter, draft, filled, finish⟩ := h
      exact ⟨draft, fillItems_keeps (keeps start inner enter) (fun _ member => member) parts filled blank,
        mapError_eq_ok.mp finish⟩
  | _ => cases h

end Shape

theorem require_ok {α : Type} {name : String} {found : Option α} {a : α}
    (h : require name found = .ok a) : found = some a := by
  cases found with
  | none => cases h
  | some b =>
      cases h
      rfl

end Dossier.Json
