import Dossier.Json.Fault

/-! # Failures

What can go wrong around documents, with the failure behind each failure. A failure is worded in two
ways: by its own message, and by the chain of messages down to its first cause.
-/

namespace Dossier

/-- Why the engine behind a table refuses. -/
inductive EngineFault where
  | noRows
  | notReadOnly
  /-- The directory of the file cannot be made. -/
  | noDirectory
  /-- The file cannot be opened. -/
  | cannotOpen
  /-- The file holds something else than a database. -/
  | notADatabase
  | noTable (name : String)
  /-- A question has more variables than the engine takes. -/
  | tooManyVariables
  /-- A cell that should hold text holds bytes. -/
  | columnType (index : Nat) (column : String)
  /-- The text of a cell is not in the form that its column requires. -/
  | conversion (index : Nat) (reason : String)
  deriving Repr, DecidableEq

inductive DatabaseFailure where
  | connection (source : EngineFault)
  | query (source : EngineFault)
  | migration (message : String)
  | serialization (source : Json.Fault)
  /-- Someone who held the database has failed while holding it. -/
  | lock
  deriving Repr, DecidableEq

/-- Why the scan status of a document is not known. What the transport says of itself is not kept. -/
inductive ScanFailure where
  | connection (url : String)
  | status (documentId : String) (status : Nat)
  | invalidResponse
  deriving Repr, DecidableEq

/-- Why a processor has no answer. What the transport says of itself is not kept. -/
inductive ProcessorFailure where
  | connection (url : String)
  | endpoint (status : Nat) (message : String)
  | invalidResponse
  | failed (message : String)
  deriving Repr, DecidableEq

inductive ServiceFailure where
  | notAvailable (message : String)
  | badInput (message : String)
  | database (source : DatabaseFailure)
  /-- Nobody receives the messages of a topic. -/
  | closed (topic : String)
  | scan (source : ScanFailure)
  | config (message : String)
  | serialization (source : Json.Fault)
  deriving Repr, DecidableEq

structure EventFailure where
  eventId : String
  source : ServiceFailure
  deriving Repr, DecidableEq

inductive Failure where
  | database (source : DatabaseFailure)
  | service (source : ServiceFailure)
  | processor (source : ProcessorFailure)
  | event (source : EventFailure)
  /-- Nobody receives the messages of a topic. -/
  | closed (topic : String)
  /-- Processing failed for now. -/
  | retryable (message : String)
  /-- Processing failed for now, because of another failure. -/
  | retryableFrom (message : String) (source : Failure)
  /-- Processing failed for good. -/
  | unretryable (message : String)
  deriving Repr, DecidableEq

def EngineFault.message : EngineFault → String
  | .noRows => "Query returned no rows"
  | .notReadOnly => "Query is not read-only"
  | .noDirectory => "unable to create directory"
  | .cannotOpen => "unable to open database file"
  | .notADatabase => "file is not a database"
  | .noTable name => "no such table: " ++ name
  | .tooManyVariables => "too many SQL variables"
  | .columnType index column =>
      "Invalid column type Blob at index: " ++ Number.decimal index ++ ", name: " ++ column
  | .conversion index reason =>
      "Conversion error from type Text at index: " ++ Number.decimal index ++ ", " ++ reason

/-- The messages from an engine down to the first cause. -/
def EngineFault.chain : EngineFault → List String
  | .conversion index reason => [EngineFault.message (.conversion index reason), reason]
  | .noTable name =>
      [EngineFault.message (.noTable name), "Error code 1: SQL error or missing database"]
  | fault => [fault.message]

def DatabaseFailure.message : DatabaseFailure → String
  | .connection _ => "Database connection failed"
  | .query _ => "Query failed"
  | .migration message => "Migration failed: " ++ message
  | .serialization _ => "Serialization failed"
  | .lock => "Database connection lock poisoned"

def DatabaseFailure.chain (f : DatabaseFailure) : List String :=
  f.message :: match f with
    | .connection source | .query source => source.chain
    | .serialization source => [source.message]
    | .migration _ | .lock => []

def ScanFailure.message : ScanFailure → String
  | .connection url => "Connection failed to storage service at " ++ url
  | .status documentId code =>
      "Storage service returned status " ++ Number.decimal code ++ " for document " ++ documentId
  | .invalidResponse => "Invalid response from storage service"

def ProcessorFailure.message : ProcessorFailure → String
  | .connection url => "Request to processor endpoint " ++ url ++ " failed"
  | .endpoint code text =>
      "Processor endpoint returned status " ++ Number.decimal code ++ ": " ++ text
  | .invalidResponse => "Invalid response from processor endpoint"
  | .failed message => message

/-- The message of a topic without a receiver. -/
def closedMessage (topic : String) : String :=
  "Topic " ++ topic ++ " is closed"

def ServiceFailure.message : ServiceFailure → String
  | .notAvailable message => "Not available: " ++ message
  | .badInput message => "Bad input: " ++ message
  | .database _ => "Database error"
  | .closed _ => "Failed to publish message"
  | .scan _ => "Scan status lookup failed"
  | .config message => "Configuration error: " ++ message
  | .serialization _ => "Serialization failed"

def ServiceFailure.chain (f : ServiceFailure) : List String :=
  f.message :: match f with
    | .database source => source.chain
    | .closed topic => [closedMessage topic]
    | .scan source => [source.message]
    | .serialization source => [source.message]
    | .notAvailable _ | .badInput _ | .config _ => []

def EventFailure.message (f : EventFailure) : String :=
  "Failed to process event " ++ f.eventId

def EventFailure.chain (f : EventFailure) : List String :=
  f.message :: f.source.chain

namespace Failure

/-- The messages from a failure down to its first cause. -/
def chain : Failure → List String
  | .database source => source.chain
  | .service source => source.chain
  | .processor source => [source.message]
  | .event source => source.chain
  | .closed topic => [closedMessage topic]
  | .retryable message => [message]
  | .retryableFrom message source => message :: source.chain
  | .unretryable message => [message]

/-- The message of a failure: the first of its chain. -/
def message : Failure → String
  | .database source => source.message
  | .service source => source.message
  | .processor source => source.message
  | .event source => source.message
  | .closed topic => closedMessage topic
  | .retryable message | .retryableFrom message _ | .unretryable message => message

def chainText (f : Failure) : String :=
  String.intercalate ": " f.chain

end Failure

def ServiceFailure.chainText (f : ServiceFailure) : String :=
  (Failure.service f).chainText

end Dossier
