import Dossier.Message.Request
import Dossier.Service.Steps
import Dossier.Text.Quoted

/-! # Initiation

Asking for processors to be run on a document. Processors that have a row for the document already are
left out, unless they are to be run again; a document in quarantine is refused. Each request is first
published and then recorded, so that there is never a pending row without a message.
-/

namespace Dossier

universe u v

/-- The ids of processors of some rows, in the order of code points, each once. -/
def Service.processorsOf (rows : List Row) : List String :=
  ((rows.map Row.processorId).mergeSort fun a b => !(b < a)).eraseReps

namespace Procedure

open Steps Dealings

variable {π ε : Type} {m : Type → Type → Type u} [∀ ε, Monad (m ε)] [Steps m] [Dealings π m]

/-- What is told of processors that have rows already. -/
def tellProcessed (documentId : Uuid) (existing : List Row) : m ε Unit :=
  if existing.isEmpty then pure ()
  else tell .info "Document already processed by these processors, request discarded for them"
    [("doc_id", documentId.text),
      ("processors", Text.quotedList (Service.processorsOf existing)),
      ("unfinished", Number.decimal (existing.countP fun row => !row.status.isTerminal))]

/-- The processors that have no row for the document; all, if they are to be run again. -/
def filter (c : Collaborators π) (documentId : Uuid) (processorIds : List String) (again : Bool) :
    m ServiceFailure (List String) :=
  if again then pure processorIds
  else do
    let existing ← ask c (·.findFrom documentId processorIds)
    tellProcessed documentId existing
    return processorIds.filter fun id => !existing.any (·.processorId == id)

/-- Publishes a request and records that it is pending. -/
def request (c : Collaborators π) (documentId : Uuid) (processorId : String) : m ServiceFailure Unit := do
  explain (.closed ·.name) (publish .requests (Request.text ⟨⟨processorId⟩, documentId⟩))
  save c (.pending documentId processorId (← readClock c))
  tell .debug "Published processing request"
    [("doc_id", documentId.text), ("processor_id", processorId)]

/-- Requests processors one after the other, up to the first failure. -/
def enqueue (c : Collaborators π) (documentId : Uuid) : List String → m ServiceFailure Unit
  | [] => pure ()
  | processorId :: rest => do
      request c documentId processorId
      enqueue c documentId rest

/-- What is done for processors once the scan of their document has been answered. -/
def grant (c : Collaborators π) (documentId : Uuid) (processorIds : List String) :
    Except ScanFailure ScanStatus → m ServiceFailure Unit
  | .error failure => fail (.scan failure)
  | .ok .failedScan => do
      tell .info "Rejecting processing request for quarantined document" [("doc_id", documentId.text)]
      fail (.notAvailable ScanStatus.failedScan.message)
  | .ok .ready | .ok .awaitingScan => do
      tell .debug "Enqueuing processing request" [("doc_id", documentId.text)]
      enqueue c documentId processorIds

section

variable (m) {n : Type → Type → Type v} [∀ ε, Monad (n ε)] [Waits π m n]

/-- What is done for the processors that are left of an initiation: the scan is asked for if there are any. -/
def clear (c : Collaborators π) (documentId : Uuid) (left : List String) : n ServiceFailure Unit :=
  if left.isEmpty then
    Waits.whole π (tell .debug "Nothing to enqueue" [("doc_id", documentId.text)] : m ServiceFailure Unit)
  else do
    let answer ← Waits.look m c documentId
    Waits.whole π (grant c documentId left answer : m ServiceFailure Unit)

/-- Requests those processors that are to be run on a document. -/
def initiate (c : Collaborators π) (documentId : Uuid) (processorIds : List String) (again : Bool) :
    n ServiceFailure Unit := do
  let left ← Waits.whole π (filter c documentId processorIds again : m ServiceFailure (List String))
  clear m c documentId left

end

end Procedure

namespace Service

variable {π ε : Type}

def tellProcessed (documentId : Uuid) (existing : List Row) : Attempt ε Unit :=
  Procedure.tellProcessed documentId existing

def filter (c : Collaborators π) (documentId : Uuid) (processorIds : List String) (again : Bool) :
    Attempt ServiceFailure (List String) :=
  Procedure.filter c documentId processorIds again

def request (c : Collaborators π) (documentId : Uuid) (processorId : String) : Attempt ServiceFailure Unit :=
  Procedure.request c documentId processorId

def enqueue (c : Collaborators π) (documentId : Uuid) (processorIds : List String) :
    Attempt ServiceFailure Unit :=
  Procedure.enqueue c documentId processorIds

def grant (c : Collaborators π) (documentId : Uuid) (left : List String)
    (answer : Except ScanFailure ScanStatus) : Attempt ServiceFailure Unit :=
  Procedure.grant c documentId left answer

def clear (c : Collaborators π) (documentId : Uuid) (left : List String) : Attempt ServiceFailure Unit :=
  Procedure.clear Attempt c documentId left

def initiate (c : Collaborators π) (documentId : Uuid) (processorIds : List String) (again : Bool) :
    Attempt ServiceFailure Unit :=
  Procedure.initiate Attempt c documentId processorIds again

end Service

end Dossier
