import Dossier.Message.Event
import Dossier.Row.Basic

/-! # Commands

A command is one JSON value with a tag: an event to accept, a question for the rows of a document, or
a row to record.
-/

namespace Dossier

inductive Command where
  /-- Accept an event. -/
  | initiate (event : Event)
  /-- List the rows of a document, perhaps of some processors only. -/
  | results (documentId : Uuid) (processors : Option (List ProcessorRef))
  /-- Store a row as it is. -/
  | record (row : Row)
  deriving Repr, Inhabited

namespace Command

inductive Tag where
  | initiate
  | results
  | record
  deriving Repr, DecidableEq

def tags : List (String × Tag) :=
  [("initiate", .initiate), ("results", .results), ("record", .record)]

/-- A question of which some fields are known. -/
structure ResultsDraft where
  documentId : Option Uuid := none
  processors : Option (Option (List ProcessorRef)) := none

/-- How questions are decoded. Without processors, or with null for them, they are for all. -/
def resultsShape : Json.Shape ResultsDraft Command where
  name := "struct variant IngressCommand::Results"
  slots := [
    .of "documentId" false ResultsDraft.documentId (fun d id => { d with documentId := id })
      Uuid.decode,
    .of "processorIds" true ResultsDraft.processors (fun d ps => { d with processors := some ps })
      (Json.decodeOption (Json.decodeList ProcessorRef.decode))]
  blank := {}
  finish d := do
    return .results (← Json.require "documentId" d.documentId) (d.processors.getD none)

def decodeBody : Tag → Json.Decoder Command
  | .initiate => fun stage node => (Event.decode stage node).map .initiate
  | .results => resultsShape.decode
  | .record => fun stage node => (Row.decode stage node).map .record

def decode : Json.Decoder Command := fun stage node => do
  let (tag, body) ← Json.decodeTagged "internally tagged enum IngressCommand" "command"
    (Json.decodeName "variant identifier" tags) stage node
  decodeBody tag .buffered body

def read (s : String) : Except Json.Fault Command := Json.decode decode s

end Command

end Dossier
