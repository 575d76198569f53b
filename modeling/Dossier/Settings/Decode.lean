import Dossier.Number.Layout
import Dossier.Number.Literal
import Dossier.Settings.Basic
import Dossier.Settings.Path
import Dossier.Text.Lower
import Dossier.Text.Quoted

/-! # Decoding settings

From entries to settings. Scalars are taken for what is wanted as far as they can be: numbers may come
as text, and text as numbers. A fault names the path of its entry and, unless that is a table or a list
in the place of something else, its source.
-/

namespace Dossier.Settings

/-- Where an entry stands, as faults show it. -/
abbrev Place := String

/-- The place of a member. Behind the place of a list item it follows without a dot. -/
def Place.member (place : Place) (key : String) : Place :=
  if place.isEmpty then key
  else if place.endsWith "]" then place ++ key
  else place ++ "." ++ key

def Place.item (place : Place) (index : Nat) : Place :=
  place ++ "[" ++ Number.decimal index ++ "]"

/-- What stands where something else was expected. -/
inductive Found where
  | unit
  | bool (b : Bool)
  | whole (n : Int)
  | word (n : Int)
  | bigWord (n : Nat)
  | real (x : Number.Binary64)
  | text (s : String)
  | list
  | table
  deriving Repr, DecidableEq

def foundLayout : Number.Layout := ⟨none, true⟩

def Found.describe : Found → String
  | .unit => "unit value"
  | .bool b => "boolean `" ++ (if b then "true" else "false") ++ "`"
  | .whole n => "integer `" ++ Number.decimalInt n ++ "`"
  | .word n => "64-bit integer `" ++ Number.decimalInt n ++ "`"
  | .bigWord n => "64-bit unsigned integer `" ++ Number.decimal n ++ "`"
  | .real x => "floating point `" ++ foundLayout.text x ++ "`"
  | .text s => "string " ++ Text.quoted s
  | .list => "sequence"
  | .table => "map"

/-- Why entries are no settings. -/
inductive Fault where
  | type (found : Found) (expected : String) (place : Place) (source : Option Source)
  | missing (place : Place)
  | length (found : Nat) (expected : String) (place : Place)
  /-- A name is none of the names that are known at a place. -/
  | unknownName (enumeration name : String) (place : Place)
  /-- An entry has not the form of a name. -/
  | notAName (enumeration : String) (place : Place)
  deriving Repr, DecidableEq

def Fault.message : Fault → String
  | .type found expected place source =>
      "invalid type: " ++ found.describe ++ ", expected " ++ expected ++ " for key `" ++ place ++ "`" ++
        (source.map fun source => " in " ++ source.name).getD ""
  | .missing place => "missing configuration field " ++ Text.quoted place
  | .length found expected place =>
      "invalid length " ++ Number.decimal found ++ ", expected " ++ expected ++
        " for key `" ++ place ++ "`"
  | .unknownName enumeration name place =>
      "enum " ++ enumeration ++ " does not have variant constructor " ++ name ++ " for key `" ++ place ++ "`"
  | .notAName enumeration place =>
      "value of enum " ++ enumeration ++
        " should be represented by either string or table with exactly one key for key `" ++
        place ++ "`"

abbrev Decoder (α : Type) := Place → Entry → Except Fault α

/-- What an entry is to one who expected something else. -/
def Entry.found : Entry → Found
  | .scalar _ .null => .unit
  | .scalar _ (.bool b) => .bool b
  | .scalar _ (.whole n) => .whole n
  | .scalar _ (.real x) => .real x
  | .scalar _ (.text s) => .text s
  | .list _ _ => .list
  | .table _ _ => .table

def Entry.source : Entry → Option Source
  | .scalar source _ | .list source _ | .table source _ => source

/-- The words that stand for one and for zero. -/
def wordValue? (s : String) : Option Nat :=
  match Text.lower s with
  | "true" | "on" | "yes" => some 1
  | "false" | "off" | "no" => some 0
  | _ => none

def greatestWord : Nat := 0xFFFFFFFFFFFFFFFF

/-- A natural number in decimal digits, with or without a plus, that fits 64 bits. -/
def readWord? (s : String) : Option Nat :=
  let digits := match s.toList with
    | '+' :: digits => digits
    | digits => digits
  (Number.readDigits? digits).filter (· ≤ greatestWord)

/-- A natural number of 64 bits. -/
def decodeWord : Decoder Nat := fun place entry =>
  let wrong (found : Found) (expected : String) : Except Fault Nat :=
    .error (.type found expected place entry.source)
  match entry with
  | .scalar _ (.bool b) => .ok (if b then 1 else 0)
  | .scalar _ (.whole n) =>
      if n < 0 then wrong (.word n) "an unsigned 64 bit or less integer" else .ok n.toNat
  | .scalar _ (.real x) => .ok (x.clampToNat greatestWord)
  | .scalar _ (.text s) => match wordValue? s <|> readWord? s with
    | some n => .ok n
    | none => wrong (.text s) "an integer"
  | _ => wrong entry.found "an integer"

/-- A natural number of 32 bits. -/
def decodeHalfWord : Decoder Nat := fun place entry => do
  let n ← decodeWord place entry
  if n < 0x100000000 then return n
  else throw (.type (.bigWord n) "an unsigned 32 bit integer" place none)

def decodeText : Decoder String := fun place entry =>
  match entry with
  | .scalar _ (.text s) => .ok s
  | .scalar _ (.bool b) => .ok (if b then "true" else "false")
  | .scalar _ (.whole n) => .ok (Number.decimalInt n)
  | .scalar _ (.real x) => .ok (Number.Layout.bare.text x)
  | _ => .error (.type entry.found "a string" place entry.source)

def decodeOptionalText : Decoder (Option String) := fun place entry =>
  match entry with
  | .scalar _ .null => .ok none
  | _ => (decodeText place entry).map some

def decodeBackend : Decoder Backend := fun place entry =>
  let ofName (name : String) : Except Fault Backend :=
    match [Backend.table, .memory].find? (·.name == name) with
    | some backend => .ok backend
    | none => .error (.unknownName "StorageBackend" name place)
  match entry with
  | .scalar _ (.text name) => ofName name
  | .table _ [(name, _)] => ofName name
  | _ => .error (.notAName "StorageBackend" place)

/-- A field of a record, which is a table with its fields, or a list with them in their order: its name, and how it
changes a draft of the record. -/
structure Field (δ : Type) where
  name : String
  fill : Place → Entry → δ → Except Fault δ
  /-- Whether the field may be missing. -/
  optional : Bool

def Field.of {α δ : Type} (name : String) (optional : Bool) (set : δ → α → δ) (decode : Decoder α) :
    Field δ where
  name
  fill place entry draft := (decode place entry).map (set draft)
  optional

/-- Fills a draft with the fields that a table has. -/
def fillMembers {δ : Type} (place : Place) (members : List (String × Entry)) :
    List (Field δ) → δ → Except Fault δ
  | [], draft => .ok draft
  | field :: rest, draft => match members.lookup field.name with
    | some entry => do
        fillMembers place members rest (← field.fill (place.member field.name) entry draft)
    | none =>
        if field.optional then fillMembers place members rest draft
        else .error (.missing (place.member field.name))

/-- Fills a draft with the fields that a list has. -/
def fillItems {δ : Type} (place : Place) (expected : String) (index : Nat) :
    List (Field δ) → List Entry → δ → Except Fault δ
  | [], _, draft => .ok draft
  | field :: rest, [], draft =>
      if field.optional then fillItems place expected (index + 1) rest [] draft
      else .error (.length index expected place)
  | field :: rest, entry :: entries, draft => do
      fillItems place expected (index + 1) rest entries
        (← field.fill (place.item index) entry draft)

def decodeRecord {δ : Type} (name : String) (fields : List (Field δ)) (blank : δ) : Decoder δ :=
  fun place entry => match entry with
  | .table _ members => fillMembers place members fields blank
  | .list _ items =>
      fillItems place ("struct " ++ name ++ " with " ++ Number.decimal fields.length ++ " elements") 0
        fields items blank
  | _ => .error (.type entry.found ("struct " ++ name) place none)

def decodeStorage : Decoder StorageSettings :=
  decodeRecord "StorageConfig" [
    .of "backend" true (fun s backend => { s with backend }) decodeBackend,
    .of "data_dir" true (fun s dataDir => { s with dataDir }) decodeText] {}

def decodeScan : Decoder ScanSettings :=
  decodeRecord "ScanConfig" [
    .of "base_url" true (fun s baseUrl => { s with baseUrl }) decodeOptionalText,
    .of "timeout_secs" true (fun s timeoutSecs => { s with timeoutSecs }) decodeWord] {}

def decodeQueue : Decoder QueueSettings :=
  decodeRecord "QueueConfig" [
    .of "workers" true (fun s workers => { s with workers }) decodeWord,
    .of "max_deliveries" true (fun s maxDeliveries => { s with maxDeliveries }) decodeHalfWord,
    .of "redelivery_delay_ms" true (fun s redeliveryDelayMs => { s with redeliveryDelayMs })
      decodeWord] {}

def decodeProcessor : Decoder ProcessorSettings :=
  decodeRecord "ProcessorEndpointConfig" [
    .of "id" false (fun s id => { s with id }) decodeText,
    .of "endpoint" false (fun s endpoint => { s with endpoint }) decodeText,
    .of "timeout_secs" true (fun s timeoutSecs => { s with timeoutSecs }) decodeWord] ⟨"", "", 60⟩

/-- The items of a list, `index` items being decoded. -/
def decodeItems {α : Type} (item : Decoder α) (place : Place) (index : Nat) :
    List Entry → Except Fault (List α)
  | [] => .ok []
  | entry :: rest => do
      let value ← item (place.item index) entry
      return value :: (← decodeItems item place (index + 1) rest)

def decodeList {α : Type} (item : Decoder α) : Decoder (List α) := fun place entry =>
  match entry with
  | .list _ items => decodeItems item place 0 items
  | _ => .error (.type entry.found "a sequence" place none)

def decode : Decoder Settings :=
  decodeRecord "ServiceConfig" [
    .of "storage" true (fun s storage => { s with storage }) decodeStorage,
    .of "scan" true (fun s scan => { s with scan }) decodeScan,
    .of "queue" true (fun s queue => { s with queue }) decodeQueue,
    .of "processors" true (fun s processors => { s with processors })
      (decodeList decodeProcessor)] {}

end Dossier.Settings
