import Dossier.Json.Decode
import Dossier.Text.Utf8

/-! # JSON in bytes

What comes over a wire is bytes, and need not be text everywhere. A bad spot outside of strings is no part of any
value. In a string it is passed over by one who does not want the string; to one who does, the string is no text. So
bytes are read like the text in which each bad spot is replaced, and then the strings that have one are blotted.
Positions in bytes take a bad spot for the character that replaces it.
-/

namespace Dossier.Json

/-- Where the bad spots of bytes lie. -/
def badSpots (p : Position) : List (Option Char) → List Position
  | [] => []
  | some c :: rest => badSpots (p.past c) rest
  | none :: rest => p :: badSpots (p.past Text.replacement) rest

/-- The text of a string, unless a bad spot lies between its quotes. -/
def blotted (spots : List Position) (start stop : Position) (text : String) : Except Fault String :=
  if spots.any fun spot => !spot.before start && spot.before stop then .error (.at stop .noText)
  else .ok text

def Key.blot (spots : List Position) (key : Key) : Key :=
  { key with read := key.read >>= blotted spots key.start key.next }

mutual
/-- The value, with no text in strings that have bad spots. -/
def Node.blot (spots : List Position) : Node → Node
  | .string start read (.ok stop) => .string start (read >>= blotted spots start stop) (.ok stop)
  | .string start read (.error fault) => .string start read (.error fault)
  | .array start items => .array start (items.blot spots)
  | .object start members => .object start (members.blot spots)
  | .broken start fault => .broken start fault
  | .null start stop => .null start stop
  | .bool b start stop => .bool b start stop
  | .number start read skip => .number start read skip

def Items.blot (spots : List Position) : Items → Items
  | .stop tail => .stop tail
  | .item node rest => .item (node.blot spots) (rest.blot spots)

def Fields.blot (spots : List Position) : Fields → Fields
  | .stop tail => .stop tail
  | .field key value rest => .field (key.blot spots) (value.blot spots) (rest.blot spots)
end

def Document.ofBytes (bytes : List UInt8) : Document :=
  let document := Document.ofText (Text.replaced bytes)
  { document with root := document.root.blot (badSpots .start (Text.units none bytes)) }

def decodeBytes {α : Type} (decoder : Decoder α) (bytes : List UInt8) : Except Fault α :=
  (Document.ofBytes bytes).decode (decoder .whole)

end Dossier.Json
