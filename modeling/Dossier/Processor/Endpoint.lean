import Dossier.Failure.Basic
import Dossier.Http.Exchange
import Dossier.Row.Basic

/-! # Endpoints

A processor behind an address. It is sent the id of a document and answers with a row, which must be for
that document; the id of the processor in the row is its own business.
-/

namespace Dossier

/-- A processor behind an address. -/
structure Endpoint where
  id : String
  url : String
  deriving Repr, DecidableEq

namespace Endpoint

def request (e : Endpoint) (documentId : Uuid) : Http.Request where
  method := "POST"
  url := e.url
  body := some (Json.object [("documentId", .string documentId.text)]).text

/-- What an answer says of a document. -/
def readAnswer (documentId : Uuid) (response : Http.Response) : Except ProcessorFailure Row :=
  if !response.isSuccess then .error (.endpoint response.status response.message)
  else match response.whole?.map Row.readBytes with
    | some (.ok row) =>
        if row.documentId = documentId then .ok row
        else .error (.failed ("Processor endpoint answered for document " ++ row.documentId.text ++
          " instead of " ++ documentId.text))
    | _ => .error .invalidResponse

def answer (e : Endpoint) (documentId : Uuid) : Http.Exchange → Except ProcessorFailure Row
  | .unreachable => .error (.connection e.url)
  | .answered response => readAnswer documentId response

/-- What the endpoint says of a document over a transport. -/
def process (e : Endpoint) (transport : Http.Transport) (documentId : Uuid) :
    Except ProcessorFailure Row :=
  e.answer documentId (transport (e.request documentId))

end Endpoint

end Dossier
