import Dossier.Service.Steps

/-! # Results

Questions for the rows of a document, and saving a row as it is.
-/

namespace Dossier

universe u

namespace Procedure

open Dealings

variable {π : Type} {m : Type → Type → Type u} [∀ ε, Monad (m ε)] [Dealings π m]

/-- The rows of a document, the earliest first. -/
def results (c : Collaborators π) (documentId : Uuid) : m ServiceFailure (List Row) :=
  return Row.sortByTime (← ask c (·.find documentId))

/-- The rows of a document from some processors, in the order in which they were saved. -/
def resultsFrom (c : Collaborators π) (documentId : Uuid) (processorIds : List String) :
    m ServiceFailure (List Row) :=
  ask c (·.findFrom documentId processorIds)

end Procedure

namespace Service

variable {π : Type}

def results (c : Collaborators π) (documentId : Uuid) : Attempt ServiceFailure (List Row) :=
  Procedure.results c documentId

def resultsFrom (c : Collaborators π) (documentId : Uuid) (processorIds : List String) :
    Attempt ServiceFailure (List Row) :=
  Procedure.resultsFrom c documentId processorIds

end Service

end Dossier
