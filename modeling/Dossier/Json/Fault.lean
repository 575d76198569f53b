import Dossier.Json.Position
import Dossier.Json.Printer
import Dossier.Text.Quoted

/-! # Faults of JSON texts

Why a text is no JSON, or not the JSON that was asked for, and up to where it had been taken when
that showed.
-/

namespace Dossier.Json

inductive SyntaxFault where
  | endInValue
  | endInString
  | endInList
  | endInObject
  | expectedColon
  | expectedListCommaOrEnd
  | expectedObjectCommaOrEnd
  | expectedIdent
  | expectedValue
  | invalidEscape
  | invalidNumber
  | numberOutOfRange
  | loneSurrogate
  | endOfHexEscape
  | controlCharacter
  | noText
  | keyNotString
  | trailingComma
  | trailingCharacters
  | tooDeep
  deriving Repr, DecidableEq

def SyntaxFault.message : SyntaxFault → String
  | .endInValue => "EOF while parsing a value"
  | .endInString => "EOF while parsing a string"
  | .endInList => "EOF while parsing a list"
  | .endInObject => "EOF while parsing an object"
  | .expectedColon => "expected `:`"
  | .expectedListCommaOrEnd => "expected `,` or `]`"
  | .expectedObjectCommaOrEnd => "expected `,` or `\x7d`"
  | .expectedIdent => "expected ident"
  | .expectedValue => "expected value"
  | .invalidEscape => "invalid escape"
  | .invalidNumber => "invalid number"
  | .numberOutOfRange => "number out of range"
  | .loneSurrogate => "lone leading surrogate in hex escape"
  | .endOfHexEscape => "unexpected end of hex escape"
  | .controlCharacter => "control character (\\u0000-\\u001F) found while parsing a string"
  | .noText => "invalid unicode code point"
  | .keyNotString => "key must be a string"
  | .trailingComma => "trailing comma"
  | .trailingCharacters => "trailing characters"
  | .tooDeep => "recursion limit exceeded"

/-- What stands where something else was expected. -/
inductive Unexpected where
  | null
  | bool (b : Bool)
  | number (n : Number)
  | string (s : String)
  | sequence
  | map
  deriving Repr, DecidableEq

def Unexpected.describe : Unexpected → String
  | .null => "null"
  | .bool true => "boolean `true`"
  | .bool false => "boolean `false`"
  | .number (.whole n) => "integer `" ++ Dossier.Number.decimalInt n ++ "`"
  | .number (.real x) => "floating point `" ++ layout.text x ++ "`"
  | .string s => "string " ++ Text.quoted s
  | .sequence => "sequence"
  | .map => "map"

inductive Cause where
  /-- It is no JSON text. -/
  | syntactic (fault : SyntaxFault)
  /-- A value is of another type than the expected one. -/
  | invalidType (found : Unexpected) (expected : String)
  /-- An array has too few or too many items. -/
  | invalidLength (found : Nat) (expected : String)
  | missingField (name : String)
  | duplicateField (name : String)
  /-- A name is none of the known ones. -/
  | unknownVariant (name : String) (known : List String)
  /-- A string is not in the form that its place requires. -/
  | malformed (reason : String)
  deriving Repr, DecidableEq

/-- Names between backticks, as alternatives. -/
def alternatives : List String → String
  | [] => "there are no variants"
  | [a] => "expected `" ++ a ++ "`"
  | [a, b] => "expected `" ++ a ++ "` or `" ++ b ++ "`"
  | names => "expected one of " ++ String.intercalate ", " (names.map fun name => "`" ++ name ++ "`")

def Cause.message : Cause → String
  | .syntactic fault => fault.message
  | .invalidType found expected => "invalid type: " ++ found.describe ++ ", expected " ++ expected
  | .invalidLength found expected =>
      "invalid length " ++ Dossier.Number.decimal found ++ ", expected " ++ expected
  | .missingField name => "missing field `" ++ name ++ "`"
  | .duplicateField name => "duplicate field `" ++ name ++ "`"
  | .unknownVariant name known => "unknown variant `" ++ name ++ "`, " ++ alternatives known
  | .malformed reason => reason

/-- A cause, with the position at which it showed. Faults in values that had been read before they
were decoded have none. -/
structure Fault where
  cause : Cause
  position : Option Position
  deriving Repr, DecidableEq

def Fault.message (f : Fault) : String :=
  match f.position with
  | none => f.cause.message
  | some p =>
      f.cause.message ++ " at line " ++ Dossier.Number.decimal p.line ++ " column " ++
        Dossier.Number.decimal p.column

/-- A syntax fault at a position. -/
def Fault.at (position : Position) (fault : SyntaxFault) : Fault :=
  ⟨.syntactic fault, some position⟩

end Dossier.Json
