import Dossier.Service.Basic

/-! # The steps of procedures

What is done by a service and its components is made of few kinds of steps. The procedures are written over these
steps, once, and mean what the steps are taken to mean: here a step is done at once, and elsewhere it is left to be
done, so that procedures may take turns.
-/

namespace Dossier

universe u v

/-- The steps that a service takes by itself. A procedure of `m ε α` may fail with an `ε`. -/
class Steps (m : Type → Type → Type u) where
  fail {ε α : Type} (failure : ε) : m ε α
  /-- Does something and gives its failure another meaning. -/
  explain {ε ε' α : Type} (meaning : ε → ε') (procedure : m ε α) : m ε' α
  tell {ε : Type} (level : LogLevel) (message : String) (fields : List (String × String)) : m ε Unit
  publish (channel : Channel) (payload : String) : m Channel Unit

/-- The steps for which a service turns to those it works with. -/
class Dealings (π : Type) (m : Type → Type → Type u) where
  readClock {ε : Type} (c : Collaborators π) : m ε Timestamp
  save (c : Collaborators π) (row : Row) : m ServiceFailure Unit
  ask {α : Type} (c : Collaborators π) (question : Store → Except DatabaseFailure α) : m ServiceFailure α

/-- How procedures of `m` are put together in `n`, where the scan of a document may be waited for between them. -/
class Waits (π : Type) (m : Type → Type → Type u) (n : Type → Type → Type v) where
  /-- A procedure within which nobody is waited for. -/
  whole {ε α : Type} (procedure : m ε α) : n ε α
  look {ε : Type} (c : Collaborators π) (documentId : Uuid) : n ε (Except ScanFailure ScanStatus)

/-- Work of `w` that never fails, with procedures of `m` in it. -/
class Works (w : Type → Type v) (m : outParam (Type → Type → Type u)) where
  /-- Carries out a procedure, and gives back how it ended. -/
  attempt {ε α : Type} (procedure : m ε α) : w (Except ε α)
  tell (level : LogLevel) (message : String) (fields : List (String × String)) : w Unit

instance : Steps Attempt where
  fail failure := throw failure
  explain := Service.explain
  tell level message fields := Service.tell level message fields
  publish := Service.publish

instance (π : Type) : Dealings π Attempt where
  readClock c := Service.readClock c
  save := Service.save
  ask := Service.ask

instance (π : Type) : Waits π Attempt Attempt where
  whole procedure := procedure
  look c documentId := pure (c.scan documentId)

instance : Works (StateM Service) Attempt where
  attempt procedure := procedure.run
  tell := Service.tell

end Dossier
