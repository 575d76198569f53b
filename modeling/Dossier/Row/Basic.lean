import Dossier.Json.Bytes
import Dossier.Row.Payload
import Dossier.Row.Status
import Dossier.Timestamp.Reader
import Dossier.Uuid

/-! # Rows

A row records one step of running a processor on a document. A pair of document and processor may have
many rows; the one with the latest timestamp counts.
-/

namespace Dossier

/-- The outcome of one step of running a processor on a document. -/
structure Row where
  documentId : Uuid
  processorId : String
  status : Status
  result : Payload
  timestamp : Timestamp
  deriving Repr

namespace Row

/-- The row of a request that has not been executed. -/
def pending (documentId : Uuid) (processorId : String) (now : Timestamp) : Row :=
  ⟨documentId, processorId, .pending, .empty, now⟩

/-- The row of a document that cannot be processed. -/
def unprocessable (documentId : Uuid) (processorId error : String) (now : Timestamp) : Row :=
  ⟨documentId, processorId, .unprocessable, .withError error, now⟩

def complete (documentId : Uuid) (processorId : String) (result : Payload) (now : Timestamp) : Row :=
  ⟨documentId, processorId, .complete, result, now⟩

/-- The members of a row in the order of its text. -/
def members (r : Row) : List (String × Json) :=
  [("documentId", .string r.documentId.text), ("processorId", .string r.processorId),
    ("status", .string r.status.text), ("result", r.result.toJson),
    ("timestamp", .string r.timestamp.text)]

def text (r : Row) : String := (Json.object r.members).text

/-- The row as a JSON value, its members by key. -/
def toJson (r : Row) : Json := .object (Json.Members.ofList r.members)

structure Draft where
  documentId : Option Uuid := none
  processorId : Option String := none
  status : Option Status := none
  result : Option Payload := none
  timestamp : Option Timestamp := none

/-- How rows are decoded. A row without a result has an empty one. -/
def shape : Json.Shape Draft Row where
  name := "struct DocumentProcessorResult"
  slots := [
    .of "documentId" false Draft.documentId (fun d id => { d with documentId := id }) Uuid.decode,
    .of "processorId" false Draft.processorId (fun d id => { d with processorId := id })
      Json.decodeString,
    .of "status" false Draft.status (fun d status => { d with status := status }) Status.decode,
    .of "result" true Draft.result (fun d result => { d with result := result }) Payload.decode,
    .of "timestamp" false Draft.timestamp (fun d time => { d with timestamp := time })
      Timestamp.decode]
  blank := {}
  finish d := do
    return {
      documentId := ← Json.require "documentId" d.documentId
      processorId := ← Json.require "processorId" d.processorId
      status := ← Json.require "status" d.status
      result := d.result.getD .empty
      timestamp := ← Json.require "timestamp" d.timestamp }

def decode : Json.Decoder Row := shape.decode

def read (s : String) : Except Json.Fault Row := Json.decode decode s

/-- The row in the body of an answer, which may hold anything in the members that no row has. -/
def readBytes (bytes : List UInt8) : Except Json.Fault Row := Json.decodeBytes decode bytes

/-- Rows with earlier timestamps first, those of one instant in their order. -/
def sortByTime (rows : List Row) : List Row :=
  rows.mergeSort fun a b => a.timestamp.le b.timestamp

end Row

end Dossier
