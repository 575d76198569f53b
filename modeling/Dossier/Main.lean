import Dossier.Program.Basic
import Dossier.Program.Input
import Dossier.Store.Lines
import Dossier.Timestamp.Epoch
import Std.Time.DateTime

/-! # Command line

The program reads its settings from the working directory and the environment, answers commands line by
line from its standard input, and keeps its table in a file with one record a line. It has no network of
its own, so that servers count as unreachable.
-/

open Dossier

def settingVariables : List String :=
  ["STORAGE__BACKEND", "STORAGE__DATA_DIR", "SCAN__BASE_URL", "SCAN__TIMEOUT_SECS", "QUEUE__WORKERS",
    "QUEUE__MAX_DELIVERIES", "QUEUE__REDELIVERY_DELAY_MS"].map ("DOCPROC__" ++ ·)

def readEnvironment : IO (List (String × String)) :=
  settingVariables.filterMapM fun name => do
    return (← IO.getEnv name).map fun value => (name, value)

def readFileIfAny (path : String) : IO (Option String) := do
  try return some (← IO.FS.readFile path)
  catch _ => return none

def readPlace (path : String) : IO Place := do
  match ← readFileIfAny path with
  | none => return .nothing
  | some text => return .ofText text

def writeTable (p : Program) : IO Unit := do
  match p.service.store with
  | .memory _ => return
  | .table table =>
      IO.FS.createDirAll p.settings.storage.dataDir
      IO.FS.writeFile p.settings.storage.databasePath table.text

/-- Nobody can be reached. -/
def noNetwork : Http.Transport := fun _ => .unreachable

def readPresent : IO Timestamp := do
  let since ← Std.Time.Timestamp.now
  let some present := Timestamp.ofEpoch? since.toMillisecondsSinceUnixEpoch.val.toNat
    | throw (.userError "The clock is past the end of the calendar")
  return present

/-- Answers the lines of the standard input. -/
partial def serve (input output : IO.FS.Stream) (p : Program) : IO Unit := do
  let bytes ← readBytes input ByteArray.empty
  if bytes.isEmpty then return
  match Program.lines bytes.toList with
  | [] => return
  | line :: _ =>
      let present ← readPresent
      let clock (n : Nat) : Timestamp := { present with nano := present.nano + n % 1000000 }
      let (reply, p) := p.answer noNetwork clock line
      if let some reply := reply then
        output.putStrLn reply.text
        output.flush
        writeTable p
      serve input output p
where
  /-- The bytes of the next line. -/
  readBytes (input : IO.FS.Stream) (read : ByteArray) : IO ByteArray := do
    let next ← input.read 1
    if next.isEmpty then return read
    let read := read ++ next
    if next.get! 0 = Program.lineFeed then return read
    readBytes input read

def main : IO UInt32 := do
  let names := Settings.files.map Prod.fst
  let files ← names.filterMapM fun name => do
    return (← readFileIfAny name).map fun text => (name, text)
  let environment ← readEnvironment
  let paths := match Settings.load files environment with
    | .ok settings => [settings.storage.databasePath]
    | .error _ => []
  let places ← paths.mapM fun path => return (path, ← readPlace path)
  match Program.start ⟨files.map Prod.fst, places⟩ files environment with
  | .error (.settings fault) =>
      IO.eprintln (Failure.service fault.toFailure).chainText
      return 1
  | .error (.store failure) =>
      IO.eprintln (Failure.service (.database failure)).chainText
      return 1
  | .ok p =>
      serve (← IO.getStdin) (← IO.getStdout) p
      return 0
