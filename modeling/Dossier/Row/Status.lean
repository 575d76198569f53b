import Dossier.Json.Decode

/-! # Statuses

The status of one attempt to run a processor on a document. Processors may report any text; four texts
have a meaning here.
-/

namespace Dossier

inductive Status where
  /-- Requested, not yet executed. -/
  | pending
  /-- The processor produced a result. -/
  | complete
  /-- The document cannot be processed. -/
  | unprocessable
  /-- The processor needs an input that is not available yet. -/
  | missingDependency
  /-- Whatever else a processor reports. -/
  | other (name : String)
  deriving Repr, DecidableEq, Inhabited

namespace Status

def text : Status → String
  | .pending => "PENDING"
  | .complete => "COMPLETE"
  | .unprocessable => "UNPROCESSABLE"
  | .missingDependency => "MISSING_DEPENDENCY"
  | .other name => name

def ofText (s : String) : Status :=
  if s = "PENDING" then .pending
  else if s = "COMPLETE" then .complete
  else if s = "UNPROCESSABLE" then .unprocessable
  else if s = "MISSING_DEPENDENCY" then .missingDependency
  else .other s

/-- Whether the attempt is finished for good. -/
def isTerminal : Status → Bool
  | .complete | .unprocessable => true
  | _ => false

def decode : Json.Decoder Status :=
  Json.decodeText "a string" fun s => .ok (ofText s)

/-- Reading a status loses nothing of its text. -/
@[simp]
theorem text_ofText (s : String) : (ofText s).text = s := by
  unfold ofText
  repeat' split
  all_goals simp_all [text]

end Status

end Dossier
