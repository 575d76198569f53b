import Dossier.Message.ProcessorRef
import Dossier.Uuid

/-! # Events

An event announces a document and lists the processors to be run on it.
-/

namespace Dossier

/-- An announcement of a document. -/
structure Event where
  id : Uuid
  kind : String
  documentId : Uuid
  processors : List ProcessorRef
  deriving Repr, DecidableEq, Inhabited

namespace Event

def text (e : Event) : String :=
  (Json.object [
    ("metadata", .object [("id", .string e.id.text), ("type", .string e.kind)]),
    ("documentId", .string e.documentId.text),
    ("processorIds", .array (e.processors.map ProcessorRef.toJson))]).text

def processorIds (e : Event) : List String := e.processors.map ProcessorRef.id

structure MetadataDraft where
  id : Option Uuid := none
  kind : Option String := none

def metadataShape : Json.Shape MetadataDraft (Uuid × String) where
  name := "struct EventMetadata"
  slots := [
    .of "id" false MetadataDraft.id (fun d id => { d with id := id }) Uuid.decode,
    .of "type" false MetadataDraft.kind (fun d kind => { d with kind := kind }) Json.decodeString]
  blank := {}
  finish d := do
    return (← Json.require "id" d.id, ← Json.require "type" d.kind)

structure Draft where
  metadata : Option (Uuid × String) := none
  documentId : Option Uuid := none
  processors : Option (List ProcessorRef) := none

def shape : Json.Shape Draft Event where
  name := "struct InitiateProcessingEvent"
  slots := [
    .of "metadata" false Draft.metadata (fun d m => { d with metadata := m }) metadataShape.decode,
    .of "documentId" false Draft.documentId (fun d id => { d with documentId := id }) Uuid.decode,
    .of "processorIds" false Draft.processors (fun d ps => { d with processors := ps })
      (Json.decodeList ProcessorRef.decode)]
  blank := {}
  finish d := do
    let metadata ← Json.require "metadata" d.metadata
    return {
      id := metadata.1
      kind := metadata.2
      documentId := ← Json.require "documentId" d.documentId
      processors := ← Json.require "processorIds" d.processors }

def decode : Json.Decoder Event := shape.decode

def read (s : String) : Except Json.Fault Event := Json.decode decode s

end Event

end Dossier
