import Dossier.Message.ProcessorRef
import Dossier.Uuid

/-! # Request messages

The message that asks for one processor to be run on one document.
-/

namespace Dossier

/-- A request to run a processor on a document. -/
structure Request where
  processor : ProcessorRef
  documentId : Uuid
  deriving Repr, DecidableEq, Inhabited

namespace Request

def text (r : Request) : String :=
  (Json.object [("request", r.processor.toJson), ("documentId", .string r.documentId.text)]).text

structure Draft where
  processor : Option ProcessorRef := none
  documentId : Option Uuid := none

def shape : Json.Shape Draft Request where
  name := "struct ProcessingRequestMessage"
  slots := [
    .of "request" false Draft.processor (fun d p => { d with processor := p }) ProcessorRef.decode,
    .of "documentId" false Draft.documentId (fun d id => { d with documentId := id }) Uuid.decode]
  blank := {}
  finish d := do
    return {
      processor := ← Json.require "request" d.processor
      documentId := ← Json.require "documentId" d.documentId }

def decode : Json.Decoder Request := shape.decode

def read (s : String) : Except Json.Fault Request := Json.decode decode s

end Request

end Dossier
