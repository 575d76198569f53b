import Dossier.Json.Decode

/-! # References to processors

A processor is named by an object with its id in messages, events and commands.
-/

namespace Dossier

structure ProcessorRef where
  id : String
  deriving Repr, DecidableEq, Inhabited

namespace ProcessorRef

def toJson (p : ProcessorRef) : Json := .object [("processorId", .string p.id)]

def text (p : ProcessorRef) : String := p.toJson.text

def shape : Json.Shape (Option String) ProcessorRef where
  name := "struct ProcessorId"
  slots := [.of "processorId" false (fun d => d) (fun _ found => some found) Json.decodeString]
  blank := none
  finish d := (Json.require "processorId" d).map ProcessorRef.mk

def decode : Json.Decoder ProcessorRef := shape.decode

def read (s : String) : Except Json.Fault ProcessorRef := Json.decode decode s

end ProcessorRef

end Dossier
