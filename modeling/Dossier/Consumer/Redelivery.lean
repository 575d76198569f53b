import Dossier.Service.Steps

/-! # Redelivery

A message that could not be handled for now is sent again after a while, but only so many times. The
agenda holds the messages that wait for it; as time passes they reach their topics.
-/

namespace Dossier

universe v

/-- What a consumer says of a delivery. -/
inductive Receipt where
  /-- The message is dealt with. -/
  | ack
  /-- The message could not be dealt with for now. -/
  | nack
  deriving Repr, DecidableEq

def Receipt.name : Receipt → String
  | .ack => "ack"
  | .nack => "nack"

namespace Service

/-- Puts a delivery off until it is sent again, unless it was sent `limit` times. Tells whether it
will be. -/
def putOff (channel : Channel) (d : Delivery) (delay limit : Nat) : StateM Service Bool := do
  if limit ≤ d.attempt then
    tell .error "Delivery limit reached, dead-lettering message"
      [("topic", channel.name), ("attempt", Number.decimal d.attempt), ("payload", d.payload)]
    return false
  else
    modify fun s => { s with agenda := s.agenda ++ [⟨s.now + delay, channel, d.again⟩] }
    return true

/-- Work of `w` in which deliveries may be put off. -/
class Defers (w : Type → Type v) where
  putOff (channel : Channel) (d : Delivery) (delay limit : Nat) : w Bool

instance : Defers (StateM Service) :=
  ⟨putOff⟩

def resend (r : Redelivery) : StateM Service Unit := do
  tell .debug "Redelivering message"
    [("topic", r.channel.name), ("attempt", Number.decimal r.delivery.attempt)]
  match ← (send r.channel r.delivery).run with
  | .ok () => return
  | .error channel =>
      tell .warn "Failed to redeliver message" [("error", closedMessage channel.name)]

/-- The first of the earliest messages of an agenda, and the others. -/
def earliest? : List Redelivery → Option (Redelivery × List Redelivery)
  | [] => none
  | r :: rest => match earliest? rest with
    | none => some (r, [])
    | some (first, others) =>
        if first.due < r.due then some (first, r :: others) else some (r, rest)

/-- The millisecond at which the next message is sent again. -/
def nextDue? (s : Service) : Option Nat :=
  (earliest? s.agenda).map fun found => found.1.due

/-- Sends the next message of the agenda at its time, if that is not after `deadline`. Tells whether
there was one. -/
def resendNext (deadline : Nat) : StateM Service Bool := do
  match earliest? (← get).agenda with
  | some (r, others) =>
      if r.due ≤ deadline then
        modify fun s => { s with agenda := others, now := max s.now r.due }
        resend r
        return true
      else return false
  | none => return false

/-- Sends the messages of the agenda whose time comes until `deadline`, at most so many. -/
def resendUntil (deadline : Nat) : Nat → StateM Service Unit
  | 0 => return
  | count + 1 => do
      if ← resendNext deadline then resendUntil deadline count

/-- Lets time pass until `deadline`. -/
def waitUntil (deadline : Nat) : StateM Service Unit := do
  resendUntil deadline (← get).agenda.length
  modify fun s => { s with now := max s.now deadline }

end Service

end Dossier
