import Dossier.Log
import Dossier.Processor.Catalog
import Dossier.Text.Quoted

/-! # Registry

The processors that a service can run, by id. A processor that is registered under the id of another
takes its place.
-/

namespace Dossier

/-- A processor: the id that it goes by, and what it does. -/
structure Processor (α : Type) where
  id : String
  duty : α
  deriving Repr, DecidableEq

/-- Processors by id, each id once, in the order in which the ids came. -/
structure Registry (α : Type) where
  entries : List (String × Processor α)
  deriving Repr

namespace Registry

variable {α : Type}

def empty : Registry α := ⟨[]⟩

/-- Entries with one of them put in its place. -/
def put (processor : Processor α) : List (String × Processor α) → List (String × Processor α)
  | [] => [(processor.id, processor)]
  | (key, value) :: rest =>
      if key = processor.id then (key, processor) :: rest
      else (key, value) :: put processor rest

/-- The registry with one more processor, under the id that it goes by. -/
def register (r : Registry α) (id : String) (duty : α) : Registry α :=
  ⟨put ⟨id, duty⟩ r.entries⟩

def find? (r : Registry α) (id : String) : Option (Processor α) :=
  r.entries.lookup id

/-- What the processor under an id does. -/
def lookup (r : Registry α) (id : String) : Option α :=
  (r.find? id).map Processor.duty

def contains (r : Registry α) (id : String) : Bool :=
  (r.lookup id).isSome

/-- The ids, in the order of code points. -/
def ids (r : Registry α) : List String :=
  (r.entries.map Prod.fst).mergeSort fun a b => !(b < a)

def size (r : Registry α) : Nat := r.entries.length

def isEmpty (r : Registry α) : Bool := r.entries.isEmpty

def describe (r : Registry α) : String :=
  "ProcessorRegistry \x7b processor_ids: " ++ Text.quotedList r.ids ++ " \x7d"

def registrationLog (r : Registry α) (id : String) : Log :=
  (if (KnownProcessor.ofId? id).isSome then []
    else [⟨.warn, "Registering processor that is not in the catalog", [("processor_id", id)]⟩]) ++
  [if r.contains id then ⟨.warn, "Replaced previously registered processor", [("processor_id", id)]⟩
    else ⟨.debug, "Registered processor", [("processor_id", id)]⟩]

/-- The registry that comes of registering processors in turn, and what is told meanwhile. -/
def registerAll (r : Registry α) : List (String × α) → Registry α × Log
  | [] => (r, [])
  | (id, duty) :: rest =>
      let (final, log) := (r.register id duty).registerAll rest
      (final, r.registrationLog id ++ log)

/-- The registry of a list of processors, of two with one id the later. -/
def ofList (processors : List (String × α)) : Registry α :=
  (empty.registerAll processors).1

theorem lookup_put (processor : Processor α) (other : String)
    (entries : List (String × Processor α)) :
    (put processor entries).lookup other =
      if other = processor.id then some processor else entries.lookup other := by
  fun_induction put processor entries with
  | case1 => grind
  | case2 => grind
  | case3 key value rest hk ih => grind

/-- After a registration the id has the new processor, and all others have what they had. -/
@[simp]
theorem find?_register (r : Registry α) (id other : String) (duty : α) :
    (r.register id duty).find? other =
      if other = id then some ⟨id, duty⟩ else r.find? other :=
  lookup_put ⟨id, duty⟩ other r.entries

theorem find?_registerAll (processors : List (String × α)) (id : String) (r : Registry α) :
    (r.registerAll processors).1.find? id =
      ((processors.reverse.lookup id).map (Processor.mk id)).or (r.find? id) := by
  induction processors generalizing r with
  | nil => rfl
  | cons entry rest ih =>
      obtain ⟨key, duty⟩ := entry
      simp only [registerAll, ih, find?_register, List.reverse_cons, List.lookup_append]
      cases rest.reverse.lookup id with
      | some duty => rfl
      | none =>
          by_cases same : id = key
          · simp [same]
          · simp [List.lookup_cons, same, beq_false_of_ne same]

/-- Of all that were registered under an id the last one stands there, and it goes by that id. -/
theorem find?_ofList (processors : List (String × α)) (id : String) :
    (ofList processors).find? id = (processors.reverse.lookup id).map (Processor.mk id) := by
  rw [ofList, find?_registerAll]
  exact Option.or_none

end Registry

end Dossier
