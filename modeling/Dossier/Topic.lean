/-! # Topics

Messages pass through three topics. A topic keeps its deliveries in the order in which they came; a
consumer takes the first that waits. The receiver of a topic may go away, after which nothing more can
be sent; what waits then still waits.
-/

namespace Dossier

inductive Channel where
  /-- Requests to run a processor on a document. -/
  | requests
  /-- Results of processors. -/
  | completions
  /-- Announcements of documents. -/
  | events
  deriving Repr, DecidableEq

def Channel.name : Channel → String
  | .requests => "document-processing"
  | .completions => "document-processing-result"
  | .events => "initiate-document-processing"

/-- A message on its way, with the number of times that it has been sent. -/
structure Delivery where
  attempt : Nat
  payload : String
  deriving Repr, DecidableEq

def Delivery.first (payload : String) : Delivery := ⟨1, payload⟩

def Delivery.again (d : Delivery) : Delivery := { d with attempt := d.attempt + 1 }

structure Topic where
  /-- All that was ever sent, the first delivery first. -/
  sent : List Delivery := []
  /-- How many deliveries have been taken. -/
  taken : Nat := 0
  /-- How many more deliveries are received until the receiver goes away; any number, if none. -/
  lifetime : Option Nat := none
  deriving Repr, DecidableEq

namespace Topic

/-- Whether the receiver is there. -/
def isOpen (t : Topic) : Bool := t.lifetime ≠ some 0

/-- The deliveries that nobody has taken. -/
def waiting (t : Topic) : List Delivery := t.sent.drop t.taken

/-- The topic with one more delivery, if its receiver is there. -/
def send? (t : Topic) (d : Delivery) : Option Topic :=
  if t.isOpen then
    some { t with sent := t.sent ++ [d], lifetime := t.lifetime.map (· - 1) }
  else none

/-- The first delivery that waits, and the topic without it. -/
def take? (t : Topic) : Option (Delivery × Topic) :=
  t.waiting.head?.map fun d => (d, { t with taken := t.taken + 1 })

def close (t : Topic) : Topic := { t with lifetime := some 0 }

end Topic

structure Topics where
  requests : Topic := {}
  completions : Topic := {}
  events : Topic := {}
  deriving Repr, DecidableEq

namespace Topics

def get (ts : Topics) : Channel → Topic
  | .requests => ts.requests
  | .completions => ts.completions
  | .events => ts.events

def set (ts : Topics) : Channel → Topic → Topics
  | .requests, t => { ts with requests := t }
  | .completions, t => { ts with completions := t }
  | .events, t => { ts with events := t }

@[simp]
theorem get_set (ts : Topics) (a b : Channel) (t : Topic) :
    (ts.set a t).get b = if b = a then t else ts.get b := by
  cases a <;> cases b <;> rfl

end Topics

end Dossier
