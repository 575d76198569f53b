import Dossier.Text.Utf8

/-! # Exchanges

What is sent to a server, and what comes back. How it gets there is not this library's business: a
transport is any function from requests to exchanges.
-/

namespace Dossier.Http

structure Request where
  method : String
  url : String
  body : Option String
  deriving Repr, DecidableEq

/-- An answer. Its body may have broken off. -/
structure Response where
  status : Nat
  body : List UInt8
  complete : Bool
  deriving Repr, DecidableEq

/-- What came of a request. -/
inductive Exchange where
  /-- There was no answer: the address is no address, or nobody listens, or the server hung up. -/
  | unreachable
  | answered (response : Response)
  deriving Repr, DecidableEq

abbrev Transport := Request → Exchange

def Response.isSuccess (r : Response) : Bool :=
  200 ≤ r.status && r.status ≤ 299

/-- The body of an answer, if it is whole. It need not be text. -/
def Response.whole? (r : Response) : Option (List UInt8) :=
  if r.complete then some r.body else none

/-- The text of an answer in a diagnostic, which is empty if the answer has broken off. Answers have no headers
here, so a charset that one might name is not followed: without a mark of the byte order a body is UTF-8. -/
def Response.message (r : Response) : String :=
  if r.complete then Text.ofMarked r.body else ""

end Dossier.Http
