import Dossier.Message.Command
import Dossier.Service.Results
import Dossier.Text.Blank

/-! # Ingress

Commands come as lines of JSON and are answered with one line of JSON each. Blank lines are passed
over; a line that is no command is answered with an error.
-/

namespace Dossier

universe u v

variable {π : Type}

namespace Ingress

inductive Reply where
  | accepted (eventId : Uuid)
  | results (rows : List Row)
  | recorded
  | error (message : String)
  deriving Repr

def Reply.toJson : Reply → Json
  | .accepted eventId => .object [("accepted", .string eventId.text)]
  | .results rows => .object [("results", .array (rows.map Row.toJson))]
  | .recorded => .object [("recorded", .bool true)]
  | .error message => .object [("error", .string message)]

/-- The line of an answer, without its end. -/
def Reply.text (r : Reply) : String := r.toJson.text

end Ingress

namespace Procedure

open Ingress (Reply)

section

open Steps Dealings

variable {m : Type → Type → Type u} [∀ ε, Monad (m ε)] [Steps m] [Dealings π m]

def serve (c : Collaborators π) : Command → m ServiceFailure Reply
  | .initiate event => do
      explain (.closed ·.name) (publish .events event.text)
      tell .debug "Initiate event accepted"
        [("event_id", event.id.text), ("doc_id", event.documentId.text)]
      return .accepted event.id
  | .results documentId none => return .results (← results c documentId)
  | .results documentId (some processors) =>
      return .results (← resultsFrom c documentId (processors.map ProcessorRef.id))
  | .record row => do
      save c row
      return .recorded

end

variable {m : Type → Type → Type u} {w : Type → Type v} [∀ ε, Monad (m ε)] [Steps m] [Dealings π m]
  [Monad w] [Works w m]

def answer (c : Collaborators π) (line : String) : w Reply := do
  match Command.read line with
  | .error fault =>
      Works.tell .warn "Ignoring malformed command" [("error", fault.message)]
      return .error fault.message
  | .ok command => match ← Works.attempt (serve c command) with
    | .ok reply => return reply
    | .error failure =>
        Works.tell .error "Command failed" [("error", failure.chainText)]
        return .error failure.chainText

end Procedure

namespace Ingress

open Service

def execute (c : Collaborators π) (command : Command) : Attempt ServiceFailure Reply :=
  Procedure.serve c command

def answer (c : Collaborators π) (line : String) : StateM Service Reply :=
  Procedure.answer c line

/-- How a conversation ends. -/
inductive Ending where
  /-- All lines are answered, or no more were asked for. -/
  | finished
  /-- An answer could not be written. -/
  | outputFull
  deriving Repr, DecidableEq

/-- The text with a piece behind it, if it does not become longer than a limit in bytes. -/
def write? (limit : Option Nat) (written piece : String) : Option String :=
  let text := written ++ piece
  if limit.any (· < text.utf8ByteSize) then none else some text

/-- Answers lines one after the other, behind what is `written` already. -/
def converse (c : Collaborators π) (limit : Option Nat) :
    List String → String → StateM Service (String × Ending)
  | [], written => return (written, .finished)
  | line :: rest, written => do
      let line := Text.trim line
      if line.isEmpty then converse c limit rest written
      else
        let reply ← answer c line
        match write? limit written reply.text with
        | none => return (written, .outputFull)
        | some text => match write? limit text "\n" with
          | none => return (text, .outputFull)
          | some text => converse c limit rest text

/-- A whole conversation, and all that is written in it. -/
def run (c : Collaborators π) (limit : Option Nat) (lines : List String) :
    StateM Service (String × Ending) := do
  tell .info "Command ingress started" []
  let (written, ending) ← converse c limit lines ""
  if ending = .finished then tell .info "Command ingress stopped" []
  return (written, ending)

end Ingress

end Dossier
