import Dossier.Json.Decode

/-! # Payloads

What a processor says about a document. The payload belongs to the processor and is kept as it is; of
its entries only a text under `error` is ever read here.
-/

namespace Dossier

/-- The payload of a processing attempt. -/
structure Payload where
  entries : Json.Members
  deriving Repr, Inhabited

namespace Payload

def empty : Payload := ⟨[]⟩

/-- The payload that holds an error text alone. -/
def withError (error : String) : Payload := ⟨[("error", .string error)]⟩

def error? (p : Payload) : Option String :=
  (Json.Members.get? "error" p.entries).bind Json.string?

def isEmpty (p : Payload) : Bool := p.entries.isEmpty

def toJson (p : Payload) : Json := .object p.entries

def text (p : Payload) : String := p.toJson.text

def decode : Json.Decoder Payload := fun stage node =>
  (Json.decodeMembers "a map" stage node).map Payload.mk

def read (s : String) : Except Json.Fault Payload := Json.decode decode s

@[simp]
theorem error?_withError (e : String) : (withError e).error? = some e := by
  simp [error?, withError, Json.Members.get?, Json.string?]

end Payload

end Dossier
