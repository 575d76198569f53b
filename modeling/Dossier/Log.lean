/-! # Log

What the service tells about its work. An entry has a level, a message and named fields, all of them
text.
-/

namespace Dossier

inductive LogLevel where
  | debug
  | info
  | warn
  | error
  deriving Repr, DecidableEq

def LogLevel.name : LogLevel → String
  | .debug => "DEBUG"
  | .info => "INFO"
  | .warn => "WARN"
  | .error => "ERROR"

structure LogEntry where
  level : LogLevel
  message : String
  fields : List (String × String)
  deriving Repr, DecidableEq

/-- What the service has told, the first entry first. -/
abbrev Log := List LogEntry

end Dossier
