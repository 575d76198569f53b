import Dossier.Failure.Basic
import Dossier.Json.Decode

/-! # Scan statuses

Every document is scanned before it may be handed out. A document that failed its scan is in quarantine
for good and is never sent to a processor.
-/

namespace Dossier

/-- How far the scan of a document is. -/
inductive ScanStatus where
  | ready
  | awaitingScan
  | failedScan
  deriving Repr, DecidableEq, Inhabited

namespace ScanStatus

def text : ScanStatus → String
  | .ready => "READY"
  | .awaitingScan => "AWAITING_SCAN"
  | .failedScan => "FAILED_SCAN"

/-- What a scan status means for the document. -/
def message : ScanStatus → String
  | .ready => "Document is ready"
  | .awaitingScan => "Document is awaiting scan"
  | .failedScan => "Document has been permanently quarantined and cannot be retrieved"

def names : List (String × ScanStatus) :=
  [ScanStatus.ready, .awaitingScan, .failedScan].map fun status => (status.text, status)

def ofText? (name : String) : Option ScanStatus := names.lookup name

/-- The scan status in a JSON text: its name, or an object that has it as its one key, with null. -/
def decode : Json.Decoder ScanStatus
  | stage, .object start (.field key value (.stop tail)) => do
      let _ ← stage.enter start
      let name ← key.read
      match ofText? name, value with
      | none, _ =>
          .error (stage.fault key.next (.unknownVariant name (names.map Prod.fst)))
      | some status, .null _ _ => match tail.readObject with
          | none => .ok status
          | some fault => .error fault
      | some _, value => .error (value.unexpected stage "unit")
  | stage, node => Json.decodeName "enum ScanStatus" names stage node

/-- What a storage service answers. -/
def answerShape : Json.Shape (Option ScanStatus) ScanStatus where
  name := "struct ScanStatusResponse"
  slots := [.of "scanStatus" false (fun d => d) (fun _ found => some found) decode]
  blank := none
  finish d := Json.require "scanStatus" d

end ScanStatus

end Dossier
