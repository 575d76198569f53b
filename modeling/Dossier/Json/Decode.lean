import Dossier.Json.Reader

/-! # Decoding

From trees to domain types. A decoder walks its tree in the order of the text, so the first fault
that it meets is the fault of the text.

A value is decoded at one of two stages. While the text is read, faults have positions and the room
for nesting counts. A value that was read as a whole before anyone knew its type is decoded from the
buffer: its faults have no positions.
-/

namespace Dossier.Json

/-- When a value is decoded. -/
inductive Stage where
  /-- While the text is read, with room for so many more levels of nesting. -/
  | text (room : Nat)
  /-- After the whole value was read. -/
  | buffered
  deriving Repr, DecidableEq

abbrev Decoder (α : Type) := Stage → Node → Except Fault α

namespace Stage

/-- The stage at which a whole text is decoded. -/
def whole : Stage := .text depthLimit

/-- A fault, with its position if the stage knows it. -/
def fault (stage : Stage) (place : Position) (cause : Cause) : Fault :=
  match stage with
  | .text _ => ⟨cause, some place⟩
  | .buffered => ⟨cause, none⟩

/-- The stage within an array or object that begins at a position. -/
def enter (stage : Stage) (start : Position) : Except Fault Stage :=
  match stage with
  | .text room => (deeper room start).map .text
  | .buffered => .ok .buffered

/-- The room for nesting that values have at a stage. -/
def room : Stage → Nat
  | .text room => room
  | .buffered => depthLimit

/-- Passes over a value. In a buffer all values have been read. -/
def pass (stage : Stage) (node : Node) : Except Fault Unit :=
  match stage with
  | .text _ => node.skip
  | .buffered => .ok ()

end Stage

/-- The fault of a value that is not of the expected type. A value that cannot be read has its own. -/
def Node.unexpected (stage : Stage) (expected : String) : Node → Fault
  | .broken _ fault => fault
  | .null _ stop => stage.fault stop (.invalidType .null expected)
  | .bool b _ stop => stage.fault stop (.invalidType (.bool b) expected)
  | .number _ read skip => match read, skip with
    | .ok n, .ok stop => stage.fault stop (.invalidType (.number n) expected)
    | .error fault, _ | _, .error fault => fault
  | .string _ read skip => match read, skip with
    | .ok s, .ok stop => stage.fault stop (.invalidType (.string s) expected)
    | .error fault, _ | _, .error fault => fault
  | .array start _ => stage.fault start (.invalidType .sequence expected)
  | .object start _ => stage.fault start (.invalidType .map expected)

/-- A string that a reader understands; `read` gives the reason why one is not understood. -/
def decodeText {α : Type} (expected : String) (read : String → Except Cause α) : Decoder α
  | stage, .string _ (.ok s) (.ok stop) => (read s).mapError (stage.fault stop)
  | stage, node => .error (node.unexpected stage expected)

def decodeString : Decoder String :=
  decodeText "a string" .ok

def decodeName {α : Type} (expected : String) (known : List (String × α)) : Decoder α :=
  decodeText expected fun name => match known.lookup name with
    | some value => .ok value
    | none => .error (.unknownVariant name (known.map Prod.fst))

def decodeMembers (expected : String) : Decoder Members
  | stage, .object start members => do
      let stage ← stage.enter start
      members.read stage.room []
  | stage, node => .error (node.unexpected stage expected)

def decodeItems {α : Type} (item : Decoder α) (stage : Stage) : Items → Except Fault (List α)
  | .stop tail => match tail.readArray with
    | none => .ok []
    | some fault => .error fault
  | .item node rest => do
      let value ← item stage node
      return value :: (← decodeItems item stage rest)

def decodeList {α : Type} (item : Decoder α) : Decoder (List α)
  | stage, .array start items => do decodeItems item (← stage.enter start) items
  | stage, node => .error (node.unexpected stage "a sequence")

def decodeOption {α : Type} (value : Decoder α) : Decoder (Option α)
  | _, .null _ _ => .ok none
  | stage, node => (value stage node).map some

/-- A field of a record, as a place in a draft. -/
structure Slot (δ : Type) where
  name : String
  filled : δ → Bool
  fill : Stage → Node → δ → Except Fault δ
  /-- Whether the field may be missing. -/
  optional : Bool

/-- How a record is decoded. It is an object with its fields in any order, or an array with them in the order
of their declaration; the fields of a draft are filled one by one. -/
structure Shape (δ α : Type) where
  /-- The name of the record in diagnostics. -/
  name : String
  /-- The fields, in the order of their declaration. -/
  slots : List (Slot δ)
  /-- The draft with no field filled. -/
  blank : δ
  /-- The record of a draft, or the name of a field that it lacks. -/
  finish : δ → Except String α

def Slot.of {δ α : Type} (name : String) (optional : Bool) (get : δ → Option α)
    (set : δ → α → δ) (decode : Decoder α) : Slot δ where
  name
  filled draft := (get draft).isSome
  fill stage node draft := (decode stage node).map (set draft)
  optional

def counted (n : Nat) : String :=
  Dossier.Number.decimal n ++ if n = 1 then " element" else " elements"

/-- The position of a repeated key: its blanks count, and so does a brace right behind them. -/
def Key.repeated (key : Key) : Position :=
  if key.closes then key.next.skip 1 else key.next

namespace Shape

variable {δ α : Type}

/-- Fills a draft from the members of an object; also the position behind the object. -/
def fillFields (shape : Shape δ α) (stage : Stage) : Fields → δ → Except Fault (δ × Position)
  | .stop tail, draft => match tail.readObject, tail.stop? with
    | none, some stop => .ok (draft, stop)
    | some fault, _ => .error fault
    | none, none => .ok (draft, .start)
  | .field key value rest, draft => do
      let name ← key.read
      match shape.slots.find? (·.name == name) with
      | none =>
          stage.pass value
          shape.fillFields stage rest draft
      | some slot =>
          if slot.filled draft then throw (stage.fault key.repeated (.duplicateField name))
          let draft ← slot.fill stage value draft
          shape.fillFields stage rest draft

def countItems : Items → Nat
  | .stop _ => 0
  | .item _ rest => countItems rest + 1

/-- What follows the last field in an array, which must be nothing. -/
def closeItems (shape : Shape δ α) (stage : Stage) : Items → Except Fault Unit
  | .stop tail => match tail.closeArray with
    | none => .ok ()
    | some fault => .error fault
  | .item node rest => match stage with
    | .text _ => .error (.at (node.start.skip 1) .trailingCharacters)
    | .buffered =>
        .error ⟨.invalidLength (shape.slots.length + 1 + countItems rest)
          (counted shape.slots.length ++ " in sequence"), none⟩

/-- Fills the slots of a draft in turn from the items of an array, `index` items of it being taken. -/
def fillItems (shape : Shape δ α) (stage : Stage) (index : Nat) :
    List (Slot δ) → Items → δ → Except Fault δ
  | [], items, draft => (shape.closeItems stage items).map fun _ => draft
  | slot :: slots, .item node rest, draft => do
      let draft ← slot.fill stage node draft
      shape.fillItems stage (index + 1) slots rest draft
  | slot :: slots, .stop tail, draft => match tail.readArray with
    | some fault => .error fault
    | none =>
        if slot.optional then shape.fillItems stage (index + 1) slots (.stop tail) draft
        else .error (stage.fault (tail.stop?.getD .start)
          (.invalidLength index (shape.name ++ " with " ++ counted shape.slots.length)))

def decode (shape : Shape δ α) : Decoder α
  | stage, .object start members => do
      let inner ← stage.enter start
      let (draft, stop) ← shape.fillFields inner members shape.blank
      (shape.finish draft).mapError fun name => stage.fault stop (.missingField name)
  | stage, .array start items => do
      let inner ← stage.enter start
      let draft ← shape.fillItems inner 0 shape.slots items shape.blank
      (shape.finish draft).mapError fun name => stage.fault start (.missingField name)
  | stage, node => .error (node.unexpected stage shape.name)

end Shape

/-- The value of a field that a record cannot lack. -/
def require {α : Type} (name : String) : Option α → Except String α
  | some value => .ok value
  | none => .error name

/-- Splits the members of an object into the tag and the others, which are only read. -/
def splitTag {α : Type} (tag : String) (decodeTag : Decoder α) (stage : Stage) :
    Fields → Option α → Except Fault (α × Fields)
  | .stop tail, found => match tail.readObject, found with
    | some fault, _ => .error fault
    | none, some kind => .ok (kind, .stop tail)
    | none, none => .error (stage.fault (tail.stop?.getD .start) (.missingField tag))
  | .field key value rest, found => do
      let name ← key.read
      if name = tag then
        if found.isSome then throw (stage.fault key.repeated (.duplicateField tag))
        let kind ← decodeTag stage value
        splitTag tag decodeTag stage rest (some kind)
      else
        let _ ← value.read stage.room
        let (kind, others) ← splitTag tag decodeTag stage rest found
        return (kind, .field key value others)

/-- A tagged value: its tag, which stands among the members of an object or in front of the items of an array, and
the rest of it, which is read as a whole before it is decoded. -/
def decodeTagged {α : Type} (name tag : String) (decodeTag : Decoder α) : Decoder (α × Node)
  | stage, .object start members => do
      let inner ← stage.enter start
      let (kind, others) ← splitTag tag decodeTag inner members none
      return (kind, .object start others)
  | stage, .array start items => do
      let inner ← stage.enter start
      match items with
      | .stop tail => match tail.readArray with
        | some fault => throw fault
        | none => throw (stage.fault (tail.stop?.getD .start) (.missingField tag))
      | .item node rest =>
          let kind ← decodeTag inner node
          let _ ← rest.read inner.room
          return (kind, .array start rest)
  | stage, node => .error (node.unexpected stage name)

def decode {α : Type} (decoder : Decoder α) (text : String) : Except Fault α :=
  (Document.ofText text).decode (decoder .whole)

mutual
/-- A value as a tree, all of it in one place. -/
def toNode : Json → Node
  | .null => .null .start .start
  | .bool b => .bool b .start .start
  | .number n => .number .start (.ok n) (.ok .start)
  | .string s => .string .start (.ok s) (.ok .start)
  | .array items => .array .start (toItems items)
  | .object members => .object .start (toFields members)

def toItems : List Json → Items
  | [] => .stop (.closed .start)
  | value :: rest => .item value.toNode (toItems rest)

def toFields : List (String × Json) → Fields
  | [] => .stop (.closed .start)
  | (key, value) :: rest => .field ⟨.start, .ok key, .start, false⟩ value.toNode (toFields rest)
end

def decodeValue {α : Type} (decoder : Decoder α) (value : Json) : Except Fault α :=
  decoder .buffered value.toNode

end Dossier.Json
