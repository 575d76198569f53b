import Dossier.Failure.Basic

/-! # Failed processing

A request that was not carried out has failed either for now, and is tried again, or for good.
-/

namespace Dossier

/-- Whether another try may succeed. -/
inductive FailureKind where
  | retryable
  | unretryable
  deriving Repr, DecidableEq

def FailureKind.name : FailureKind → String
  | .retryable => "retryable"
  | .unretryable => "unretryable"

/-- Why a request was not carried out. -/
inductive ProcessingFailure where
  /-- For now, perhaps because of another failure. -/
  | retryable (message : String) (source : Option Failure)
  /-- For good. -/
  | unretryable (message : String)
  deriving Repr, DecidableEq

namespace ProcessingFailure

def kind : ProcessingFailure → FailureKind
  | .retryable _ _ => .retryable
  | .unretryable _ => .unretryable

def isRetryable (f : ProcessingFailure) : Bool :=
  f.kind = .retryable

def toFailure : ProcessingFailure → Failure
  | .retryable message none => .retryable message
  | .retryable message (some source) => .retryableFrom message source
  | .unretryable message => .unretryable message

def message : ProcessingFailure → String
  | .retryable message _ | .unretryable message => message

def chainText (f : ProcessingFailure) : String :=
  f.toFailure.chainText

end ProcessingFailure

end Dossier
