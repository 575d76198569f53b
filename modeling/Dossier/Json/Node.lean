import Dossier.Json.Fault

/-! # JSON texts as trees

A text is read once, into a tree that remembers where its parts stand. The tree of a broken text
ends where the text stops being JSON, so whoever walks the tree in order meets the faults of the text
in the order of the text. Two kinds of reader walk it: those who want a value, and those who pass over
one and ask less of it. Where the two differ the tree keeps what each of them finds.
-/

namespace Dossier.Json

/-- How a list of items or members ends. -/
inductive Tail where
  /-- With its bracket. -/
  | closed (stop : Position)
  /-- Something else stands where a comma or the bracket must. -/
  | separator (place : Position)
  /-- The text ends where a comma or the bracket must stand. -/
  | ended (place : Position)
  /-- The bracket stands behind a comma. -/
  | commaClosed (place : Position)
  /-- The text ends behind a comma. -/
  | commaEnded (place : Position)
  /-- Something else stands where a key must. -/
  | noKey (place : Position)
  /-- A key is no string, to one who wants its text and to one who does not. -/
  | brokenKey (read skip : Fault)
  /-- The text has stopped being JSON before. -/
  | cut
  deriving Repr, DecidableEq

/-- A key of a member. -/
structure Key where
  /-- The position of its opening quote. -/
  start : Position
  /-- The text of the key. -/
  read : Except Fault String
  /-- The position after the key and the blanks that follow it. -/
  next : Position
  /-- Whether a closing brace follows. -/
  closes : Bool
  deriving Repr

mutual
/-- A value in a text, or the place where the text stops being JSON. Every value begins at `start`;
scalars end at `stop`. -/
inductive Node where
  | broken (start : Position) (fault : Fault)
  | null (start stop : Position)
  | bool (b : Bool) (start stop : Position)
  /-- A number, to one who wants it and to one who passes over it. -/
  | number (start : Position) (read : Except Fault Number) (skip : Except Fault Position)
  /-- A string, to one who wants it and to one who passes over it. -/
  | string (start : Position) (read : Except Fault String) (skip : Except Fault Position)
  | array (start : Position) (items : Items)
  | object (start : Position) (members : Fields)

inductive Items where
  | stop (tail : Tail)
  | item (node : Node) (rest : Items)

inductive Fields where
  | stop (tail : Tail)
  | field (key : Key) (value : Node) (rest : Fields)
end

/-- A whole text: its value, and where something follows that is not blank. -/
structure Document where
  root : Node
  trailing : Option Position

/-- What the end of an array is to one who wants its items. -/
def Tail.readArray : Tail → Option Fault
  | .closed _ => none
  | .separator place => some (.at place .expectedListCommaOrEnd)
  | .ended place => some (.at place .endInList)
  | .commaClosed place => some (.at place .trailingComma)
  | .commaEnded place => some (.at place .endInValue)
  | .noKey place => some (.at place .expectedValue)
  | .brokenKey read _ => some read
  | .cut => none

/-- What the end of an array is to one who passes over it. -/
def Tail.skipArray : Tail → Option Fault
  | .commaClosed place => some (.at place .expectedValue)
  | tail => tail.readArray

/-- What the end of an array is to one who has all the items that are wanted. -/
def Tail.closeArray : Tail → Option Fault
  | .separator place | .commaEnded place => some (.at place .trailingCharacters)
  | tail => tail.readArray

/-- What the end of an object is to one who wants its members. -/
def Tail.readObject : Tail → Option Fault
  | .closed _ => none
  | .separator place => some (.at place .expectedObjectCommaOrEnd)
  | .ended place => some (.at place .endInObject)
  | .commaClosed place => some (.at place .trailingComma)
  | .commaEnded place => some (.at place .endInValue)
  | .noKey place => some (.at place .keyNotString)
  | .brokenKey read _ => some read
  | .cut => none

/-- What the end of an object is to one who passes over it. -/
def Tail.skipObject : Tail → Option Fault
  | .commaClosed place => some (.at place .keyNotString)
  | .commaEnded place => some (.at place .endInObject)
  | .brokenKey _ skip => some skip
  | tail => tail.readObject

/-- The position after the closing bracket. -/
def Tail.stop? : Tail → Option Position
  | .closed stop => some stop
  | _ => none

def Node.start : Node → Position
  | .broken start _ | .null start _ | .bool _ start _ | .number start _ _ | .string start _ _
  | .array start _ | .object start _ => start

mutual
/-- The first fault that one meets who passes over a value. -/
def Node.skip : Node → Except Fault Unit
  | .broken _ fault => .error fault
  | .null _ _ | .bool _ _ _ => .ok ()
  | .number _ _ skip | .string _ _ skip => skip.map fun _ => ()
  | .array _ items => items.skip
  | .object _ members => members.skip

def Items.skip : Items → Except Fault Unit
  | .stop tail => match tail.skipArray with
    | none => .ok ()
    | some fault => .error fault
  | .item node rest => node.skip >>= fun _ => rest.skip

def Fields.skip : Fields → Except Fault Unit
  | .stop tail => match tail.skipObject with
    | none => .ok ()
    | some fault => .error fault
  | .field _ value rest => value.skip >>= fun _ => rest.skip
end

/-- How deep arrays and objects may nest. -/
def depthLimit : Nat := 127

/-- One level less of room, or the fault of an array or object that is opened without room. -/
def deeper (room : Nat) (start : Position) : Except Fault Nat :=
  match room with
  | 0 => .error (.at (start.skip 1) .tooDeep)
  | room + 1 => .ok room

mutual
/-- The value, if arrays and objects nest no deeper than there is room. -/
def Node.read (room : Nat) : Node → Except Fault Json
  | .broken _ fault => .error fault
  | .null _ _ => .ok .null
  | .bool b _ _ => .ok (.bool b)
  | .number _ read _ => read.map .number
  | .string _ read _ => read.map .string
  | .array start items => do
      let room ← deeper room start
      return .array (← items.read room)
  | .object start members => do
      let room ← deeper room start
      return .object (← members.read room [])

def Items.read (room : Nat) : Items → Except Fault (List Json)
  | .stop tail => match tail.readArray with
    | none => .ok []
    | some fault => .error fault
  | .item node rest => do
      let value ← node.read room
      return value :: (← rest.read room)

/-- The members put to earlier ones. -/
def Fields.read (room : Nat) : Fields → Members → Except Fault Members
  | .stop tail, members => match tail.readObject with
    | none => .ok members
    | some fault => .error fault
  | .field key value rest, members => do
      let key ← key.read
      let value ← value.read room
      rest.read room (members.insert key value)
end

end Dossier.Json
