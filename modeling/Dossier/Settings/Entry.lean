import Dossier.Json.Value
import Dossier.Toml.Value

/-! # Entries

What sources of settings say, as one tree of entries. Later sources are put into the tree of the
earlier ones: tables are merged key by key, all else replaces what was there. An entry knows its source
until it is merged into a table.
-/

namespace Dossier.Settings

inductive Source where
  | file (name : String)
  | environment
  deriving Repr, DecidableEq

def Source.name : Source → String
  | .file name => name
  | .environment => "the environment"

/-- A value that is neither list nor table. -/
inductive Scalar where
  | null
  | bool (b : Bool)
  | whole (n : Int)
  | real (x : Number.Binary64)
  | text (s : String)
  deriving Repr, DecidableEq

/-- What a source says, or several of them. -/
inductive Entry where
  | scalar (source : Option Source) (s : Scalar)
  | list (source : Option Source) (items : List Entry)
  | table (source : Option Source) (members : List (String × Entry))
  deriving Repr, Inhabited

namespace Entry

/-- The entry that says nothing. -/
def null : Entry := .scalar none .null

mutual
def ofToml (source : Source) : Toml → Entry
  | .text s | .moment s => .scalar source (.text s)
  | .whole n => .scalar source (.whole n)
  | .real x => .scalar source (.real x)
  | .bool b => .scalar source (.bool b)
  | .array items => .list source (ofTomls source items)
  | .table members => .table source (ofTomlMembers source members)

def ofTomls (source : Source) : List Toml → List Entry
  | [] => []
  | v :: rest => ofToml source v :: ofTomls source rest

def ofTomlMembers (source : Source) : List (String × Toml) → List (String × Entry)
  | [] => []
  | (key, v) :: rest => (key, ofToml source v) :: ofTomlMembers source rest
end

/-- A whole number of a JSON text. One that does not fit 64 bits with a sign is taken as a floating
point number. -/
def ofWhole (n : Int) : Scalar :=
  if n < 0x8000000000000000 then .whole n else .real (.ofNat n.toNat)

mutual
def ofJson (source : Source) : Json → Entry
  | .null => .scalar source .null
  | .bool b => .scalar source (.bool b)
  | .number (.whole n) => .scalar source (ofWhole n)
  | .number (.real x) => .scalar source (.real x)
  | .string s => .scalar source (.text s)
  | .array items => .list source (ofJsons source items)
  | .object members => .table source (ofJsonMembers source members)

def ofJsons (source : Source) : List Json → List Entry
  | [] => []
  | v :: rest => ofJson source v :: ofJsons source rest

def ofJsonMembers (source : Source) : List (String × Json) → List (String × Entry)
  | [] => []
  | (key, v) :: rest => (key, ofJson source v) :: ofJsonMembers source rest
end

/-- The members of a table; none of anything else. -/
def members : Entry → List (String × Entry)
  | .table _ members => members
  | _ => []

/-- The items of a list; none of anything else. -/
def items : Entry → List Entry
  | .list _ items => items
  | _ => []

/-- The members with one of them put in its place, or behind the others. -/
def putMember (key : String) (entry : Entry) : List (String × Entry) → List (String × Entry)
  | [] => [(key, entry)]
  | (k, e) :: rest => if k = key then (key, entry) :: rest else (k, e) :: putMember key entry rest

mutual
/-- What comes of putting an entry where another is. -/
def merge (old : Entry) : Entry → Entry
  | .table _ members => match old with
    | .table source known => .table source (mergeMembers known members)
    | _ => .table none (mergeMembers [] members)
  | entry => entry

def mergeMembers (known : List (String × Entry)) : List (String × Entry) → List (String × Entry)
  | [] => known
  | (key, entry) :: rest =>
      mergeMembers (putMember key (merge ((known.lookup key).getD .null) entry) known) rest
end

end Entry

end Dossier.Settings
