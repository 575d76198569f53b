import Dossier.Number.Digits

/-! # Settings

What can be set for the service, and what it is if nothing is set.
-/

namespace Dossier

/-- Where rows are kept. -/
inductive Backend where
  | table
  | memory
  deriving Repr, DecidableEq

def Backend.name : Backend → String
  | .table => "sqlite"
  | .memory => "memory"

structure StorageSettings where
  backend : Backend := .table
  dataDir : String := "./data"
  deriving Repr, DecidableEq

/-- The settings of scan status lookups. Without an address every document counts as scanned. -/
structure ScanSettings where
  baseUrl : Option String := none
  timeoutSecs : Nat := 10
  deriving Repr, DecidableEq

structure QueueSettings where
  /-- How many requests are executed at the same time. -/
  workers : Nat := 4
  /-- How often a message is sent before it is given up. -/
  maxDeliveries : Nat := 5
  /-- The milliseconds after which a message is sent again. -/
  redeliveryDelayMs : Nat := 1000
  deriving Repr, DecidableEq

structure ProcessorSettings where
  id : String
  endpoint : String
  timeoutSecs : Nat := 60
  deriving Repr, DecidableEq

structure Settings where
  storage : StorageSettings := {}
  scan : ScanSettings := {}
  queue : QueueSettings := {}
  processors : List ProcessorSettings := []
  deriving Repr, DecidableEq

def joinPath (directory file : String) : String :=
  if directory.isEmpty || directory.endsWith "/" then directory ++ file
  else directory ++ "/" ++ file

def StorageSettings.databasePath (s : StorageSettings) : String :=
  joinPath s.dataDir "docproc.db"

/-- The most requests that can be executed at the same time. -/
def mostPermits : Nat := 2305843009213693951

/-- How many requests are executed at the same time: at least one. -/
def QueueSettings.permits (q : QueueSettings) : Nat :=
  min (max q.workers 1) mostPermits

def QueueSettings.delayText (q : QueueSettings) : String :=
  Number.decimal (q.redeliveryDelayMs / 1000) ++ "s+" ++
    Number.decimal (q.redeliveryDelayMs % 1000 * 1000000) ++ "ns"

end Dossier
