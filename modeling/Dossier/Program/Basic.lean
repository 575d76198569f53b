import Dossier.Consumer.Events
import Dossier.Consumer.Requests
import Dossier.Ingress
import Dossier.Processor.Endpoint
import Dossier.ScanService
import Dossier.Settings.Loading

/-! # The program

The service set up from its settings: its store opened, its endpoints registered, its consumers at work.
It answers one line after the other. Between the lines the consumers work until nothing is left to do,
time passing as they need it.
-/

namespace Dossier

/-- What the program finds on its disk. -/
structure Disk where
  /-- The paths of files that are no directories. -/
  files : List String
  /-- What stands at the paths of tables. -/
  places : List (String × Place) := []
  deriving Repr

namespace Disk

/-- The names of a path from its beginning, those that change nothing left out. -/
def names (path : String) : List String :=
  let parts := (path.splitOn "/").filter fun part => part ≠ "" ∧ part ≠ "."
  if path.startsWith "/" then "/" :: parts else parts

/-- Whether a directory can be made: no part of its path is a file. -/
def canMake (d : Disk) (directory : String) : Bool :=
  !d.files.any fun file => (names file).isPrefixOf (names directory)

/-- What stands at the path of a table in a directory. -/
def place (d : Disk) (directory path : String) : Place :=
  if !d.canMake directory then .noDirectory
  else (d.places.lookup path).getD .nothing

def keep (d : Disk) (path : String) (table : Table) : Disk :=
  { d with places := (path, .file table) :: d.places.filter (·.1 ≠ path) }

end Disk

structure Program where
  settings : Settings
  service : Service

inductive StartFault where
  | settings (fault : Settings.LoadFault)
  | store (failure : DatabaseFailure)
  deriving Repr, DecidableEq

namespace Program

def openStore (disk : Disk) (storage : StorageSettings) : Except DatabaseFailure Store :=
  match storage.backend with
  | .memory => .ok .empty
  | .table => (disk.place storage.dataDir storage.databasePath).open.map .table

/-- The program that the given files and an environment set up. -/
def start (disk : Disk) (files environment : List (String × String)) :
    Except StartFault Program := do
  let settings ← (Settings.load files environment).mapError .settings
  let store ← (openStore disk settings.storage).mapError .store
  return { settings, service := { store } }

def endpoints (settings : Settings) : Registry Endpoint :=
  .ofList (settings.processors.map fun p => (p.id, ⟨p.id, p.endpoint⟩))

/-- How scan statuses are looked up. Without a service every document counts as ready. -/
def scanOf (settings : Settings) (transport : Http.Transport) (documentId : Uuid) :
    Except ScanFailure ScanStatus :=
  match settings.scan.baseUrl with
  | none => .ok .ready
  | some url => (ScanService.ofUrl url).status transport documentId

/-- Whom the service of the program works with. -/
def collaborators (settings : Settings) (transport : Http.Transport) (clock : Nat → Timestamp) :
    Collaborators Endpoint where
  registry := endpoints settings
  scan := scanOf settings transport
  clock
  saveFault _ := none
  findFault _ := none

def announcement (payload : String) : LogEntry :=
  match Row.read payload with
  | .ok row => ⟨.info, "Processing result published",
      [("doc_id", row.documentId.text), ("processor_id", row.processorId),
        ("status", row.status.text)]⟩
  | .error fault =>
      ⟨.warn, "Unreadable processing result on completion topic", [("error", fault.message)]⟩

/-- Takes the first delivery that waits on a topic. -/
def takeFrom (channel : Channel) : StateM Service (Option Delivery) := fun s =>
  match (s.topics.get channel).take? with
  | none => (none, s)
  | some (d, topic) => (some d, { s with topics := s.topics.set channel topic })

/-- The consumers do one thing. Tells whether there was any. -/
def workOnce (c : Collaborators Endpoint) (q : QueueSettings)
    (answer : Endpoint → Uuid → Except ProcessorFailure Row) : StateM Service Bool := do
  if let some d ← takeFrom .events then
    let _ ← EventConsumer.handle c q d
    return true
  if let some d ← takeFrom .requests then
    let _ ← RequestConsumer.handle c q answer d
    return true
  if let some d ← takeFrom .completions then
    let entry := announcement d.payload
    Service.tell entry.level entry.message entry.fields
    return true
  match (← get).nextDue? with
  | none => return false
  | some time =>
      Service.waitUntil time
      return true

/-- The consumers work until nothing is left to do, at most so many times. -/
def work (c : Collaborators Endpoint) (q : QueueSettings)
    (answer : Endpoint → Uuid → Except ProcessorFailure Row) : Nat → StateM Service Unit
  | 0 => return
  | count + 1 => do
      if ← workOnce c q answer then work c q answer count

/-- A bound on what there is to do. Every message is sent only so many times, and an event asks for no
more processors than its text has characters. -/
def workload (q : QueueSettings) (s : Service) : Nat :=
  let size (payloads : List String) := payloads.foldl (fun sum payload => sum + (4 * payload.length + 4)) 0
  let queued (topic : Topic) := size (topic.waiting.map (·.payload))
  (queued s.topics.events + queued s.topics.requests + queued s.topics.completions +
    size (s.agenda.map (·.delivery.payload)) + 1) * ((q.maxDeliveries + 2) * (q.maxDeliveries + 2))

/-- Answers a line, unless it is blank, and lets the consumers work. -/
def answer (p : Program) (transport : Http.Transport) (clock : Nat → Timestamp) (line : String) :
    Option Ingress.Reply × Program :=
  let line := Text.trim line
  if line.isEmpty then (none, p)
  else
    let c := collaborators p.settings transport clock
    let (reply, service) := Ingress.answer c line p.service
    let bound := workload p.settings.queue service
    let ((), service) :=
      work c p.settings.queue (fun e documentId => e.process transport documentId) bound service
    (some reply, { p with service })

def leave (p : Program) (disk : Disk) : Disk :=
  match p.service.store with
  | .memory _ => disk
  | .table table => disk.keep p.settings.storage.databasePath table

end Program

end Dossier
