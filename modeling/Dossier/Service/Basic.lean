import Dossier.Log
import Dossier.Processor.Registry
import Dossier.Scan
import Dossier.Store.Basic
import Dossier.Topic

/-! # The service

What the service holds, whom it works with, and the steps that all its operations are made of. A step
may fail; what was done before it failed stays done.
-/

namespace Dossier

/-- Whom a service works with. The store and the clock are asked again and again, so what they say
depends on how often they were asked before. -/
structure Collaborators (π : Type) where
  registry : Registry π
  scan : Uuid → Except ScanFailure ScanStatus
  clock : Nat → Timestamp
  /-- The failure of a saving, by how many there were before. -/
  saveFault : Nat → Option ServiceFailure
  /-- The failure of a question to the store, by how many there were before. -/
  findFault : Nat → Option ServiceFailure

/-- A message that waits to be sent again. -/
structure Redelivery where
  /-- The millisecond at which it is sent. -/
  due : Nat
  channel : Channel
  delivery : Delivery
  deriving Repr, DecidableEq

structure Service where
  store : Store
  topics : Topics := {}
  /-- The messages that wait to be sent again, in the order in which they were put off. -/
  agenda : List Redelivery := []
  /-- The milliseconds that have passed. -/
  now : Nat := 0
  /-- How often the clock was read. -/
  readings : Nat := 0
  /-- How often the store was asked to save a row. -/
  saves : Nat := 0
  /-- How often the store was asked for rows. -/
  finds : Nat := 0
  /-- The rows that were saved, the first one first. -/
  saved : List Row := []
  log : Log := []
  deriving Repr

/-- Something that a service does, which may fail. -/
abbrev Attempt (ε : Type) := ExceptT ε (StateM Service)

namespace Service

variable {π : Type}

def tell (level : LogLevel) (message : String) (fields : List (String × String)) :
    StateM Service Unit :=
  fun s => ((), { s with log := s.log ++ [⟨level, message, fields⟩] })

def readClock (c : Collaborators π) : StateM Service Timestamp :=
  fun s => (c.clock s.readings, { s with readings := s.readings + 1 })

def save (c : Collaborators π) (row : Row) : Attempt ServiceFailure Unit := fun s =>
  let asked := { s with saves := s.saves + 1 }
  match c.saveFault s.saves with
  | some failure => (.error failure, asked)
  | none => match s.store.save row with
    | .error failure => (.error (.database failure), asked)
    | .ok store => (.ok (), { asked with store, saved := s.saved ++ [row] })

def ask {α : Type} (c : Collaborators π) (question : Store → Except DatabaseFailure α) :
    Attempt ServiceFailure α := fun s =>
  let asked := { s with finds := s.finds + 1 }
  match c.findFault s.finds with
  | some failure => (.error failure, asked)
  | none => ((question s.store).mapError .database, asked)

/-- Sends a delivery on a topic. It fails with the topic if nobody receives its messages. -/
def send (channel : Channel) (delivery : Delivery) : Attempt Channel Unit := fun s =>
  match (s.topics.get channel).send? delivery with
  | some topic => (.ok (), { s with topics := s.topics.set channel topic })
  | none => (.error channel, s)

/-- Sends a message for the first time. -/
def publish (channel : Channel) (payload : String) : Attempt Channel Unit :=
  send channel (.first payload)

/-- Does something and gives its failure another meaning. -/
def explain {ε ε' α : Type} (meaning : ε → ε') (attempt : Attempt ε α) : Attempt ε' α := fun s =>
  let (answer, after) := attempt s
  (answer.mapError meaning, after)

end Service

end Dossier
