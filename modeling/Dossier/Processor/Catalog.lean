/-! # Catalog

The processors that are known by name. Others may be registered too.
-/

namespace Dossier

/-- A processor of the catalog. -/
inductive KnownProcessor where
  | idProofing
  | documentQuality
  deriving Repr, DecidableEq

namespace KnownProcessor

def all : List KnownProcessor := [.idProofing, .documentQuality]

def id : KnownProcessor → String
  | .idProofing => "docai-id-proofing"
  | .documentQuality => "docai-document-quality"

def name : KnownProcessor → String
  | .idProofing => "ID Proofing"
  | .documentQuality => "Document Quality"

def description : KnownProcessor → String
  | .idProofing => "ID Proofing Processor"
  | .documentQuality => "Document Quality Processor"

def ofId? (text : String) : Option KnownProcessor :=
  all.find? (·.id == text)

/-- Every processor of the catalog is found under its id. -/
@[simp]
theorem ofId?_id (p : KnownProcessor) : ofId? p.id = some p := by
  cases p <;> decide

end KnownProcessor

end Dossier
