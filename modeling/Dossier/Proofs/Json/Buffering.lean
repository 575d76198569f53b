import Dossier.Proofs.Json.Telling

/-! # Decoding from a text and from a buffer

Trees that tell the same are read alike, wherever their parts stand. A record beside a tag is decoded from a buffer
just if all its members could be read with the room that was left, and then as it would be from a text. Main
statements: `Shape.decode_tells` and `decodeTagged_tells`.
-/

namespace Dossier.Json

variable {α δ : Type} {node other : Node} {told : Option Json} {room : Nat}

mutual
/-- Trees of one value are read alike. -/
theorem Node.Spells.read_alike {node other : Node} {json value : Json} {room : Nat} (spells : node.Spells json)
    (too : other.Spells json) (read : node.read room = .ok value) : other.read room = .ok value := by
  cases spells with
  | null | bool | number | string =>
      cases too
      exact read
  | array items =>
      cases too with
      | array others =>
          simp only [Node.read, bind_eq_ok] at read ⊢
          obtain ⟨less, enter, values, read, same⟩ := read
          obtain rfl := deeper_ok enter
          exact ⟨less, rfl, values, items.read_alike others read, same⟩
  | object fields =>
      cases too with
      | object others =>
          simp only [Node.read, bind_eq_ok] at read ⊢
          obtain ⟨less, enter, members, read, same⟩ := read
          obtain rfl := deeper_ok enter
          exact ⟨less, rfl, members, fields.read_alike others read, same⟩

theorem Items.Spells.read_alike {items others : Items} {told values : List Json} {room : Nat}
    (spells : items.Spells told) (too : others.Spells told) (read : items.read room = .ok values) :
    others.read room = .ok values := by
  cases spells with
  | nil =>
      cases too
      exact read
  | cons item rest =>
      cases too with
      | cons item' rest' =>
          simp only [Items.read, bind_eq_ok] at read ⊢
          obtain ⟨value, first, values, later, same⟩ := read
          exact ⟨value, item.read_alike item' first, values, rest.read_alike rest' later, same⟩

theorem Fields.Spells.read_alike {fields others : Fields} {told : List (String × Json)} {room : Nat}
    {earlier members : Members} (spells : fields.Spells told) (too : others.Spells told)
    (read : fields.read room earlier = .ok members) : others.read room earlier = .ok members := by
  cases spells with
  | nil =>
      cases too
      exact read
  | cons value rest =>
      cases too with
      | cons value' rest' =>
          simp only [Fields.read, bind_eq_ok] at read ⊢
          obtain ⟨key, known, json, first, later⟩ := read
          exact ⟨key, known, json, value.read_alike value' first, rest.read_alike rest' later⟩
end

theorem Node.Tells.read_alike {value : Json} (tells : node.Tells told) (too : other.Tells told)
    (read : node.read room = .ok value) : other.read room = .ok value := by
  cases told with
  | none => exact absurd read (tells room value)
  | some json => exact Node.Spells.read_alike tells too read

/-- A text is decoded from nothing but a string. -/
theorem decodeText_tells {expected : String} {read : String → Except Cause α} {stage : Stage} {a : α}
    (tells : node.Tells told) :
    decodeText expected read stage node = .ok a ↔ ∃ s, told = some (.string s) ∧ read s = .ok a := by
  constructor
  · intro decoded
    cases told with
    | none =>
        unfold decodeText at decoded
        split at decoded
        · exact absurd rfl (tells 0 _)
        · cases decoded
    | some json =>
        cases tells with
        | string => exact ⟨_, rfl, mapError_eq_ok.mp decoded⟩
        | _ => cases decoded
  · rintro ⟨s, rfl, understood⟩
    cases tells
    exact mapError_eq_ok.mpr understood

/-- An object is read just if its members are, in less room. -/
theorem Node.read_object_iff {start : Position} {fields : Fields} {members : Members} :
    (Node.object start fields).read (room + 1) = .ok (.object members) ↔ fields.read room [] = .ok members := by
  simp only [Node.read, bind_eq_ok]
  constructor
  · rintro ⟨less, enter, found, read, same⟩
    cases enter
    cases same
    exact read
  · exact fun read => ⟨room, rfl, members, read, rfl⟩

theorem Node.exists_of_read_object {members : Members} (read : node.read room = .ok (.object members)) :
    ∃ start fields, node = .object start fields := by
  cases node with
  | object start fields => exact ⟨start, fields, rfl⟩
  | array start items =>
      simp only [Node.read, bind_eq_ok] at read
      obtain ⟨_, _, _, _, same⟩ := read
      cases same
  | number | string =>
      obtain ⟨_, _, same⟩ := map_eq_ok.mp read
      cases same
  | broken | null | bool => cases read

theorem exists_of_decodeMembers {expected : String} {stage : Stage} {members : Members}
    (decoded : decodeMembers expected stage node = .ok members) : ∃ start fields, node = .object start fields := by
  cases node with
  | object start fields => exact ⟨start, fields, rfl⟩
  | _ => cases decoded

/-- Members are decoded from a text just if the object can be read. -/
theorem decodeMembers_text_iff {expected : String} {members : Members} :
    decodeMembers expected (.text room) node = .ok members ↔ node.read room = .ok (.object members) := by
  constructor
  · intro decoded
    obtain ⟨start, fields, rfl⟩ := exists_of_decodeMembers decoded
    simp only [decodeMembers, bind_eq_ok] at decoded
    obtain ⟨inner, enter, read⟩ := decoded
    obtain ⟨less, rfl, rfl⟩ := enter_ok enter
    exact Node.read_object_iff.mpr read
  · intro read
    obtain ⟨start, fields, rfl⟩ := Node.exists_of_read_object read
    cases room with
    | zero => cases read
    | succ room => exact Node.read_object_iff.mp read

/-- In a buffer there is as much room as in a text for all that an object has. -/
theorem decodeMembers_buffered_iff {expected : String} {members : Members} :
    decodeMembers expected .buffered node = .ok members ↔
      node.read (depthLimit + 1) = .ok (.object members) := by
  constructor
  · intro decoded
    obtain ⟨start, fields, rfl⟩ := exists_of_decodeMembers decoded
    exact Node.read_object_iff.mpr decoded
  · intro read
    obtain ⟨start, fields, rfl⟩ := Node.exists_of_read_object read
    exact Node.read_object_iff.mp read

/-- Whether a decoder makes of a value in a text what it makes of it in a buffer, once it could be read. -/
def Steady (room : Nat) (decode : Decoder α) : Prop :=
  ∀ (node other : Node) (told : Option Json) (a : α), node.Tells told → other.Tells told →
    (decode (.text room) node = .ok a ↔ other.Readable room ∧ decode .buffered other = .ok a)

theorem steady_decodeText (expected : String) (read : String → Except Cause α) :
    Steady room (decodeText expected read) := by
  intro node other told a tells too
  rw [decodeText_tells tells, decodeText_tells too]
  constructor
  · rintro ⟨s, rfl, understood⟩
    refine ⟨⟨.string s, ?_⟩, s, rfl, understood⟩
    cases too
    rfl
  · exact fun ⟨_, decoded⟩ => decoded

theorem steady_decodeMembers (expected : String) (fits : room ≤ depthLimit) :
    Steady room (decodeMembers expected) := by
  intro node other told members tells too
  rw [decodeMembers_text_iff, decodeMembers_buffered_iff]
  constructor
  · intro read
    have alike := tells.read_alike too read
    exact ⟨⟨_, alike⟩, Node.read_mono alike (Nat.le_succ_of_le fits)⟩
  · rintro ⟨⟨json, read⟩, buffered⟩
    have wider := Node.read_mono read (Nat.le_succ_of_le fits)
    obtain rfl : json = .object members := Except.ok.inj (wider.symm.trans buffered)
    exact too.read_alike tells read

theorem Steady.map {β : Type} {decode : Decoder α} (steady : Steady room decode) (f : α → β) :
    Steady room fun stage node => (decode stage node).map f := by
  intro node other told b tells too
  simp only [map_eq_ok]
  constructor
  · rintro ⟨a, decoded, rfl⟩
    obtain ⟨readable, buffered⟩ := (steady node other told a tells too).mp decoded
    exact ⟨readable, a, buffered, rfl⟩
  · rintro ⟨readable, a, buffered, rfl⟩
    exact ⟨a, (steady node other told a tells too).mpr ⟨readable, buffered⟩, rfl⟩

namespace Shape

variable {shape : Shape δ α} {draft filled : δ} {fields left : Fields}
  {parts : List (Option String × Option Json)}

/-- Whether a slot is filled steadily. -/
def SteadySlot (room : Nat) (slot : Slot δ) : Prop :=
  ∀ draft, Steady room fun stage node => slot.fill stage node draft

theorem steadySlot_of {β : Type} {name : String} {optional : Bool} {get : δ → Option β} {set : δ → β → δ}
    {decode : Decoder β} (steady : Steady room decode) :
    SteadySlot room (.of name optional get set decode) :=
  fun draft => steady.map (set draft)

theorem fillFields_field_iff {stage : Stage} {key : Key} {text : String} {slot : Slot δ} {rest : Fields}
    (named : key.read = .ok text) (found : shape.slots.find? (·.name == text) = some slot) :
    (∃ stop, shape.fillFields stage (.field key node rest) draft = .ok (filled, stop)) ↔
      slot.filled draft = false ∧ ∃ next, slot.fill stage node draft = .ok next ∧
        ∃ stop, shape.fillFields stage rest next = .ok (filled, stop) := by
  simp only [fillFields, named, found, bind_eq_ok, Except.ok.injEq, exists_eq_left']
  cases slot.filled draft with
  | true =>
      constructor
      · rintro ⟨_, refused⟩
        cases refused
      · rintro ⟨full, -⟩
        cases full
  | false =>
      simp only [Bool.false_eq_true, if_false, bind_eq_ok, true_and]
      constructor
      · rintro ⟨stop, next, fills, more⟩
        exact ⟨next, fills, stop, more⟩
      · rintro ⟨next, fills, stop, more⟩
        exact ⟨stop, next, fills, more⟩

/-- Fields that all are known are filled from a text just if they can be read and are filled from a buffer. -/
theorem fillFields_tells (steady : ∀ slot ∈ shape.slots, SteadySlot room slot) (tells : fields.Tells parts)
    (too : left.Tells parts)
    (known : ∀ part ∈ parts, ∃ key slot, part.1 = some key ∧ shape.slots.find? (·.name == key) = some slot) :
    (∃ stop, shape.fillFields (.text room) fields draft = .ok (filled, stop)) ↔
      left.All (Node.Readable room) ∧ ∃ stop, shape.fillFields .buffered left draft = .ok (filled, stop) := by
  induction tells generalizing left draft with
  | nil =>
      cases too
      simp only [fillFields, Tail.readObject, Tail.stop?, Except.ok.injEq, Prod.mk.injEq, Fields.All, true_and,
        exists_and_left]
      simp
  | @cons key node rest name told others same value behind ih =>
      cases too with
      | @cons key' node' rest' _ _ _ same' value' behind' =>
          obtain ⟨⟨text, slot, rfl, found⟩, further⟩ := List.forall_mem_cons.mp known
          have steadily := steady slot (List.mem_of_find?_eq_some found) draft node node' told
          rw [fillFields_field_iff (toOption_eq_some.mp same) found,
            fillFields_field_iff (toOption_eq_some.mp same') found]
          constructor
          · rintro ⟨free, next, fills, more⟩
            obtain ⟨readable, buffered⟩ := (steadily next value value').mp fills
            obtain ⟨others, more⟩ := (ih behind' further).mp more
            exact ⟨⟨readable, others⟩, free, next, buffered, more⟩
          · rintro ⟨⟨readable, others⟩, free, next, buffered, more⟩
            exact ⟨free, next, (steadily next value value').mpr ⟨readable, buffered⟩,
              (ih behind' further).mpr ⟨others, more⟩⟩

theorem decode_object_iff {stage inner : Stage} {start : Position} {a : α} (enter : stage.enter start = .ok inner) :
    shape.decode stage (.object start fields) = .ok a ↔
      ∃ draft, (∃ stop, shape.fillFields inner fields shape.blank = .ok (draft, stop)) ∧
        shape.finish draft = .ok a := by
  simp only [decode, enter, bind_eq_ok, Except.ok.injEq, exists_eq_left']
  constructor
  · rintro ⟨⟨draft, stop⟩, filled, finish⟩
    exact ⟨draft, ⟨stop, filled⟩, mapError_eq_ok.mp finish⟩
  · rintro ⟨draft, ⟨stop, filled⟩, finish⟩
    exact ⟨(draft, stop), filled, mapError_eq_ok.mpr finish⟩

/-- A record of known fields is decoded from a text just if its fields can be read and it is decoded from a buffer. -/
theorem decode_tells {start begin : Position} {a : α} (steady : ∀ slot ∈ shape.slots, SteadySlot room slot)
    (tells : fields.Tells parts) (too : left.Tells parts)
    (known : ∀ part ∈ parts, ∃ key slot, part.1 = some key ∧ shape.slots.find? (·.name == key) = some slot) :
    shape.decode (.text (room + 1)) (.object start fields) = .ok a ↔
      left.All (Node.Readable room) ∧ shape.decode .buffered (.object begin left) = .ok a := by
  have text : (Stage.text (room + 1)).enter start = .ok (.text room) := rfl
  have buffered : Stage.buffered.enter begin = .ok .buffered := rfl
  rw [decode_object_iff text, decode_object_iff buffered]
  simp only [fillFields_tells steady tells too known]
  constructor
  · rintro ⟨draft, ⟨readable, filled⟩, finish⟩
    exact ⟨readable, draft, filled, finish⟩
  · rintro ⟨readable, draft, filled, finish⟩
    exact ⟨draft, ⟨readable, filled⟩, finish⟩

end Shape

variable {tag : String} {decodeTag : Decoder α} {stage : Stage} {kind found : α}
  {before after : List (Option String × Option Json)} {fields others : Fields} {json : Json}

/-- Once the tag is found the others only have to be read. -/
theorem splitTag_after (tells : fields.Tells after)
    (named : ∀ part ∈ after, ∃ key, part.1 = some key ∧ key ≠ tag) :
    splitTag tag decodeTag stage fields (some kind) = .ok (found, others) ↔
      fields.All (Node.Readable stage.room) ∧ found = kind ∧ others = fields := by
  induction tells generalizing found others with
  | nil =>
      simp only [splitTag, Tail.readObject, Except.ok.injEq, Prod.mk.injEq, Fields.All, true_and, eq_comm]
  | @cons key node rest name told more same value behind ih =>
      obtain ⟨⟨text, rfl, other⟩, further⟩ := List.forall_mem_cons.mp named
      simp only [splitTag, toOption_eq_some.mp same, bind_eq_ok, Except.ok.injEq, exists_eq_left', if_neg other]
      constructor
      · rintro ⟨read, readable, ⟨kind', left⟩, split, whole⟩
        obtain ⟨all, rfl, rfl⟩ := (ih further).mp split
        cases whole
        exact ⟨⟨⟨read, readable⟩, all⟩, rfl, rfl⟩
      · rintro ⟨⟨⟨read, readable⟩, all⟩, rfl, rfl⟩
        exact ⟨read, readable, _, (ih further).mpr ⟨all, rfl, rfl⟩, rfl⟩

/-- An object with a tag at any place is split into the tag and the others just if these can be read. -/
theorem splitTag_tells (tells : fields.Tells (before ++ (some tag, some json) :: after))
    (named : ∀ part ∈ before ++ after, ∃ key, part.1 = some key ∧ key ≠ tag)
    (known : ∀ node : Node, node.Spells json → decodeTag stage node = .ok kind) :
    ∃ left : Fields, left.Tells (before ++ after) ∧ ∀ found others,
      splitTag tag decodeTag stage fields none = .ok (found, others) ↔
        left.All (Node.Readable stage.room) ∧ found = kind ∧ others = left := by
  induction before generalizing fields with
  | nil =>
      cases tells with
      | @cons key node rest _ _ _ same value behind =>
          refine ⟨rest, behind, fun found others => ?_⟩
          simp only [splitTag, toOption_eq_some.mp same, bind_eq_ok, Except.ok.injEq, exists_eq_left', if_true,
            Option.isSome_none, Bool.false_eq_true, if_false, known node value]
          exact splitTag_after behind named
  | cons part before ih =>
      cases tells with
      | @cons key node rest name told _ same value behind =>
          obtain ⟨⟨text, rfl, other⟩, further⟩ := List.forall_mem_cons.mp named
          obtain ⟨left, tells, splits⟩ := ih behind further
          refine ⟨.field key node left, .cons same value tells, fun found others => ?_⟩
          simp only [splitTag, toOption_eq_some.mp same, bind_eq_ok, Except.ok.injEq, exists_eq_left', if_neg other]
          constructor
          · rintro ⟨read, readable, ⟨kind', left'⟩, split, whole⟩
            obtain ⟨all, rfl, rfl⟩ := (splits _ _).mp split
            cases whole
            exact ⟨⟨⟨read, readable⟩, all⟩, rfl, rfl⟩
          · rintro ⟨⟨⟨read, readable⟩, all⟩, rfl, rfl⟩
            exact ⟨read, readable, _, (splits _ _).mpr ⟨all, rfl, rfl⟩, rfl⟩

/-- A tagged object is decoded just if what is beside the tag can be read, in a level less of room. -/
theorem decodeTagged_tells {name : String} {start : Position}
    (tells : fields.Tells (before ++ (some tag, some json) :: after))
    (named : ∀ part ∈ before ++ after, ∃ key, part.1 = some key ∧ key ≠ tag)
    (known : ∀ node : Node, node.Spells json → decodeTag (.text room) node = .ok kind) :
    ∃ left : Fields, left.Tells (before ++ after) ∧ ∀ found body,
      decodeTagged name tag decodeTag (.text (room + 1)) (.object start fields) = .ok (found, body) ↔
        left.All (Node.Readable room) ∧ found = kind ∧ body = .object start left := by
  obtain ⟨left, beside, splits⟩ := splitTag_tells tells named known
  refine ⟨left, beside, fun found body => ?_⟩
  simp only [decodeTagged, bind_eq_ok]
  constructor
  · rintro ⟨inner, enter, ⟨found, others⟩, split, same⟩
    cases enter
    cases same
    obtain ⟨readable, rfl, rfl⟩ := (splits _ _).mp split
    exact ⟨readable, rfl, rfl⟩
  · rintro ⟨readable, rfl, rfl⟩
    exact ⟨.text room, rfl, (found, left), (splits _ _).mpr ⟨readable, rfl, rfl⟩, rfl⟩

end Dossier.Json
