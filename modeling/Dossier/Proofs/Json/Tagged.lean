import Dossier.Proofs.Json.Reading

/-! # Tagged values

What stands beside a tag is read as a whole before it is decoded, so there was room for all of it. An object with a
tag at any place among its members is split into both. Main statements: `decodeTagged_readable` and
`decodeTagged_spells`.
-/

namespace Dossier.Json

theorem deeper_mono {room more less : Nat} {start : Position} (h : deeper room start = .ok less)
    (fits : room ≤ more) : ∃ wider, deeper more start = .ok wider ∧ less ≤ wider :=
  deeper_of_lt start (deeper_ok h ▸ fits)

mutual
/-- A value that is read is read alike where there is more room. -/
theorem Node.read_mono {node : Node} {room more : Nat} {json : Json} (h : node.read room = .ok json)
    (fits : room ≤ more) : node.read more = .ok json := by
  cases node with
  | broken => cases h
  | null | bool | number | string => exact h
  | array start items =>
      simp only [Node.read, bind_eq_ok] at h
      obtain ⟨less, enter, values, read, same⟩ := h
      cases same
      obtain ⟨wider, enter, fits⟩ := deeper_mono enter fits
      rw [Node.read, enter]
      simp only [bind, Except.bind, Items.read_mono read fits]
      rfl
  | object start fields =>
      simp only [Node.read, bind_eq_ok] at h
      obtain ⟨less, enter, members, read, same⟩ := h
      cases same
      obtain ⟨wider, enter, fits⟩ := deeper_mono enter fits
      rw [Node.read, enter]
      simp only [bind, Except.bind, Fields.read_mono read fits]
      rfl

theorem Items.read_mono {items : Items} {room more : Nat} {values : List Json}
    (h : items.read room = .ok values) (fits : room ≤ more) : items.read more = .ok values := by
  cases items with
  | stop tail => exact h
  | item node rest =>
      simp only [Items.read, bind_eq_ok] at h
      obtain ⟨value, first, values, others, same⟩ := h
      cases same
      rw [Items.read, Node.read_mono first fits, Items.read_mono others fits]
      rfl

theorem Fields.read_mono {fields : Fields} {room more : Nat} {earlier members : Members}
    (h : fields.read room earlier = .ok members) (fits : room ≤ more) :
    fields.read more earlier = .ok members := by
  cases fields with
  | stop tail => exact h
  | field key node rest =>
      simp only [Fields.read, bind_eq_ok] at h
      obtain ⟨name, known, value, read, others⟩ := h
      rw [Fields.read, known, Node.read_mono read fits]
      exact Fields.read_mono others fits
end

/-- The members that are decoded from a buffer are those that were read before. -/
theorem decodeMembers_of_read {expected : String} {node : Node} {members : Members} {json : Json}
    {room : Nat} (h : decodeMembers expected .buffered node = .ok members)
    (read : node.read room = .ok json) (fits : room ≤ depthLimit) : json = object members := by
  cases node with
  | object start fields =>
      simp only [Node.read, bind_eq_ok] at read
      obtain ⟨less, enter, found, read, same⟩ := read
      cases same
      have within : less ≤ depthLimit := by
        rw [deeper_ok enter] at fits
        omega
      have decoded : fields.read depthLimit [] = .ok members := h
      rw [Fields.read_mono read within] at decoded
      exact congrArg object (Except.ok.inj decoded)
  | _ => cases h

variable {α : Type} {name tag : String} {decodeTag : Decoder α} {stage : Stage} {room : Nat} {kind : α}

/-- Whether a value can be read in some room. -/
def Node.Readable (room : Nat) (node : Node) : Prop :=
  ∃ json, node.read room = .ok json

theorem Items.all_readable {items : Items} {values : List Json} (h : items.read room = .ok values) :
    items.All (Node.Readable room) := by
  match items with
  | .stop tail => trivial
  | .item node rest =>
      simp only [Items.read, bind_eq_ok] at h
      obtain ⟨value, first, values, others, -⟩ := h
      exact ⟨⟨value, first⟩, Items.all_readable others⟩

theorem splitTag_readable {fields others : Fields} {found : Option α} {kind : α}
    (h : splitTag tag decodeTag stage fields found = .ok (kind, others)) :
    others.All (Node.Readable stage.room) := by
  match fields with
  | .stop tail =>
      unfold splitTag at h
      split at h
      · cases h
      · cases h
        trivial
      · cases h
  | .field key value rest =>
      simp only [splitTag, bind_eq_ok] at h
      obtain ⟨first, -, h⟩ := h
      split at h
      · split at h
        · cases h
        · simp only [bind_eq_ok] at h
          obtain ⟨_, -, h⟩ := h
          exact splitTag_readable h
      · simp only [bind_eq_ok] at h
        obtain ⟨json, read, ⟨_, more⟩, split, same⟩ := h
        cases same
        exact ⟨⟨json, read⟩, splitTag_readable split⟩

/-- All that is beside a tag could be read with one level less of room. -/
theorem decodeTagged_readable {node body : Node}
    (h : decodeTagged name tag decodeTag (.text (room + 1)) node = .ok (kind, body)) :
    body.Within (Node.Readable room) := by
  cases node with
  | object start members =>
      simp only [decodeTagged, bind_eq_ok] at h
      obtain ⟨inner, enter, ⟨_, others⟩, split, same⟩ := h
      obtain ⟨less, rfl, deep⟩ := enter_ok enter
      cases same
      cases deep
      exact splitTag_readable split
  | array start items =>
      simp only [decodeTagged, bind_eq_ok] at h
      obtain ⟨inner, enter, h⟩ := h
      obtain ⟨less, rfl, deep⟩ := enter_ok enter
      cases deep
      cases items with
      | stop tail =>
          simp only at h
          split at h
          · cases h
          · cases h
      | item node rest =>
          simp only [bind_eq_ok] at h
          obtain ⟨_, -, values, read, same⟩ := h
          cases same
          exact Items.all_readable read
  | _ => cases h

variable {before after : List (String × Json)} {value : Json} {fields : Fields}

/-- Once the tag is found, the members that are left are only read. -/
theorem splitTag_rest (spells : fields.Spells after) (ordered : EveryMember KeepsOrder after)
    (fits : depthOfMembers after ≤ stage.room) (others : ∀ member ∈ after, member.1 ≠ tag) (kind : α) :
    splitTag tag decodeTag stage fields (some kind) = .ok (kind, fields) := by
  induction after generalizing fields with
  | nil =>
      cases spells
      rfl
  | cons member after ih =>
      cases spells with
      | cons value rest =>
          rw [depthOfMembers, Nat.max_le] at fits
          obtain ⟨other, others⟩ := List.forall_mem_cons.mp others
          rw [splitTag]
          simp only [bind, Except.bind, if_neg other, value.read ordered.1 fits.1, ih rest ordered.2 fits.2 others]
          rfl

theorem splitTag_spells (spells : fields.Spells (before ++ (tag, value) :: after))
    (ordered : EveryMember KeepsOrder (before ++ after)) (fits : depthOfMembers (before ++ after) ≤ stage.room)
    (others : ∀ member ∈ before ++ after, member.1 ≠ tag)
    (known : ∀ node : Node, node.Spells value → decodeTag stage node = .ok kind) :
    ∃ left, splitTag tag decodeTag stage fields none = .ok (kind, left) ∧ left.Spells (before ++ after) := by
  induction before generalizing fields with
  | nil =>
      cases spells with
      | cons tagged rest =>
          refine ⟨_, ?_, rest⟩
          rw [splitTag]
          simp only [bind, Except.bind, if_pos, known _ tagged, splitTag_rest rest ordered fits others]
          rfl
  | cons member before ih =>
      cases spells with
      | @cons place key next closes node _ _ _ value rest =>
          rw [List.cons_append, depthOfMembers, Nat.max_le] at fits
          obtain ⟨other, others⟩ := List.forall_mem_cons.mp others
          obtain ⟨left, split, spells⟩ := ih rest ordered.2 fits.2 others
          refine ⟨.field ⟨place, .ok key, next, closes⟩ node left, ?_, .cons value spells⟩
          rw [splitTag]
          simp only [bind, Except.bind, if_neg other, value.read ordered.1 fits.1, split]
          rfl

/-- A tag is found wherever it stands, and the others are left as they are. -/
theorem decodeTagged_spells (name : String) {node : Node}
    (spells : node.Spells (object (before ++ (tag, value) :: after)))
    (ordered : EveryMember KeepsOrder (before ++ after)) (fits : depthOfMembers (before ++ after) ≤ room)
    (others : ∀ member ∈ before ++ after, member.1 ≠ tag)
    (known : ∀ node : Node, node.Spells value → decodeTag (.text room) node = .ok kind) :
    ∃ start left, decodeTagged name tag decodeTag (.text (room + 1)) node = .ok (kind, .object start left) ∧
      left.Spells (before ++ after) := by
  cases spells with
  | @object start _ _ members =>
      have room : depthOfMembers (before ++ after) ≤ (Stage.text room).room := fits
      obtain ⟨left, split, spells⟩ := splitTag_spells members ordered room others known
      refine ⟨start, left, ?_, spells⟩
      rw [decodeTagged]
      simp only [Stage.enter, deeper, Except.map, bind, Except.bind, split]
      rfl

end Dossier.Json
