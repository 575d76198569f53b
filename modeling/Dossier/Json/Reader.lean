import Dossier.Json.Node
import Dossier.Json.Numeral
import Dossier.Json.Quotation

/-! # Reading JSON texts

From characters to trees. Reading never fails: a text that is not JSON gives a tree with a fault in
it. Every level of nesting and every item takes at least one character, so the length of the text
bounds the recursion.
-/

namespace Dossier.Json

/-- The rest of a text and the position of its beginning. -/
structure Cursor where
  position : Position
  rest : List Char

namespace Reader

def isSpace (c : Char) : Bool :=
  c == ' ' || c == '\n' || c == '\t' || c == '\r'

/-- The cursor behind the blanks that it stands in front of. -/
def skipSpace (p : Position) : List Char → Cursor
  | [] => ⟨p, []⟩
  | c :: rest => if isSpace c then skipSpace (p.past c) rest else ⟨p, c :: rest⟩

/-- Takes the letters of a name; the position at which a letter is missing, if one is. -/
def scanName (p : Position) : List Char → List Char → Except Fault Cursor
  | [], rest => .ok ⟨p, rest⟩
  | _ :: _, [] => .error (.at p .endInValue)
  | letter :: letters, c :: rest =>
      if c = letter then scanName (p.past c) letters rest else .error (.at (p.touch c) .expectedIdent)

/-- A node and the cursor behind it, which is missing where the text stops being JSON. -/
abbrev Found (α : Type) := α × Option Cursor

def readName (p : Position) (letters : List Char) (rest : List Char)
    (value : Position → Node) : Found Node :=
  match scanName p letters rest with
  | .ok cursor => (value cursor.position, some cursor)
  | .error fault => (.broken p fault, none)

/-- A number; `body` is the text behind its sign. -/
def readNumber (p : Position) (negative : Bool) (body : List Char) : Found Node :=
  match Numeral.scan negative body with
  | .error flaw => (.number p (.error (flaw.asRead p)) (.error (flaw.asSkipped p)), none)
  | .ok (numeral, rest) =>
      let stop := p.skip numeral.bytes
      let value := match numeral.value with
        | .ok n => .ok n
        | .error bytes => .error (.at (p.skip bytes) .numberOutOfRange)
      (.number p value (.ok stop), some ⟨stop, rest⟩)

/-- The two readings of a string, behind its opening quote at `p`. -/
def readQuotation (p : Position) (rest : List Char) :
    Except Fault String × Except Fault (Position × List Char) :=
  let (units, stringEnd) := Quotation.units (p.skip 1) rest
  ((Quotation.characters stringEnd units).map String.ofList, stringEnd.skip)

/-- A string that is a value, behind its opening quote at `p`. -/
def readString (p : Position) (rest : List Char) : Found Node :=
  let (read, skip) := readQuotation p rest
  (.string p read (skip.map fun found => found.1),
    match skip with
    | .ok (stop, rest) => some ⟨stop, rest⟩
    | .error _ => none)

mutual
def readNode : Nat → Cursor → Found Node
  | 0, cursor => (.broken cursor.position (.at cursor.position .endInValue), none)
  | fuel + 1, cursor =>
      let p := cursor.position
      match cursor.rest with
      | [] => (.broken p (.at p .endInValue), none)
      | 'n' :: _ => readName p ['n', 'u', 'l', 'l'] cursor.rest (.null p)
      | 't' :: _ => readName p ['t', 'r', 'u', 'e'] cursor.rest (.bool true p)
      | 'f' :: _ => readName p ['f', 'a', 'l', 's', 'e'] cursor.rest (.bool false p)
      | '-' :: rest => readNumber p true rest
      | '"' :: rest => readString p rest
      | '[' :: rest =>
          let found := readFirstItem fuel (skipSpace (p.skip 1) rest)
          (.array p found.1, found.2)
      | '{' :: rest =>
          let found := readFirstField fuel (skipSpace (p.skip 1) rest)
          (.object p found.1, found.2)
      | c :: _ =>
          if Dossier.Number.isDigit c then readNumber p false cursor.rest
          else (.broken p (.at (p.touch c) .expectedValue), none)

/-- The items of an array, from the first on. -/
def readFirstItem : Nat → Cursor → Found Items
  | 0, cursor => (.stop (.ended cursor.position), none)
  | fuel + 1, cursor =>
      match cursor.rest with
      | [] => (.stop (.ended cursor.position), none)
      | ']' :: rest =>
          let stop := cursor.position.skip 1
          (.stop (.closed stop), some ⟨stop, rest⟩)
      | _ => readItem fuel cursor

def readItem : Nat → Cursor → Found Items
  | 0, cursor => (.stop (.ended cursor.position), none)
  | fuel + 1, cursor =>
      match readNode fuel cursor with
      | (node, none) => (.item node (.stop .cut), none)
      | (node, some next) =>
          let found := readItemsBehind fuel (skipSpace next.position next.rest)
          (.item node found.1, found.2)

def readItemsBehind : Nat → Cursor → Found Items
  | 0, cursor => (.stop (.ended cursor.position), none)
  | fuel + 1, cursor =>
      let p := cursor.position
      match cursor.rest with
      | [] => (.stop (.ended p), none)
      | ']' :: rest => (.stop (.closed (p.skip 1)), some ⟨p.skip 1, rest⟩)
      | ',' :: rest =>
          let next := skipSpace (p.skip 1) rest
          match next.rest with
          | [] => (.stop (.commaEnded next.position), none)
          | ']' :: _ => (.stop (.commaClosed (next.position.skip 1)), none)
          | _ => readItem fuel next
      | c :: _ => (.stop (.separator (p.touch c)), none)

def readFirstField : Nat → Cursor → Found Fields
  | 0, cursor => (.stop (.ended cursor.position), none)
  | fuel + 1, cursor =>
      let p := cursor.position
      match cursor.rest with
      | [] => (.stop (.ended p), none)
      | '}' :: rest => (.stop (.closed (p.skip 1)), some ⟨p.skip 1, rest⟩)
      | '"' :: rest => readField fuel p rest
      | c :: _ => (.stop (.noKey (p.touch c)), none)

/-- A member of an object, behind the opening quote of its key at `p`, and the members behind it. -/
def readField : Nat → Position → List Char → Found Fields
  | 0, p, _ => (.stop (.ended p), none)
  | fuel + 1, p, rest =>
      match readQuotation p rest with
      | (.error read, .error skip) => (.stop (.brokenKey read skip), none)
      | (.ok _, .error skip) => (.stop (.brokenKey skip skip), none)
      | (read, .ok (stop, rest)) =>
          let next := skipSpace stop rest
          let key : Key := ⟨p, read, next.position, next.rest.head? == some '}'⟩
          match next.rest with
          | [] =>
              (.field key (.broken next.position (.at next.position .endInObject)) (.stop .cut), none)
          | ':' :: rest =>
              let value := skipSpace (next.position.skip 1) rest
              match readNode fuel value with
              | (node, none) => (.field key node (.stop .cut), none)
              | (node, some next) =>
                  let found := readFieldsBehind fuel (skipSpace next.position next.rest)
                  (.field key node found.1, found.2)
          | c :: _ =>
              (.field key (.broken next.position (.at (next.position.touch c) .expectedColon))
                (.stop .cut), none)

def readFieldsBehind : Nat → Cursor → Found Fields
  | 0, cursor => (.stop (.ended cursor.position), none)
  | fuel + 1, cursor =>
      let p := cursor.position
      match cursor.rest with
      | [] => (.stop (.ended p), none)
      | '}' :: rest => (.stop (.closed (p.skip 1)), some ⟨p.skip 1, rest⟩)
      | ',' :: rest =>
          let next := skipSpace (p.skip 1) rest
          match next.rest with
          | [] => (.stop (.commaEnded next.position), none)
          | '}' :: _ => (.stop (.commaClosed (next.position.skip 1)), none)
          | '"' :: rest => readField fuel next.position rest
          | c :: _ => (.stop (.noKey (next.position.touch c)), none)
      | c :: _ => (.stop (.separator (p.touch c)), none)
end

end Reader

def Document.ofText (text : String) : Document :=
  let chars := text.toList
  let (root, cursor) := Reader.readNode (4 * chars.length + 4) (Reader.skipSpace .start chars)
  { root
    trailing := cursor.bind fun cursor =>
      let next := Reader.skipSpace cursor.position cursor.rest
      next.rest.head?.map next.position.touch }

/-- What a reader of the root makes of the whole text: the text must hold nothing else. -/
def Document.decode {α : Type} (d : Document) (read : Node → Except Fault α) : Except Fault α := do
  let value ← read d.root
  match d.trailing with
  | none => return value
  | some place => throw (.at place .trailingCharacters)

def read (text : String) : Except Fault Json :=
  (Document.ofText text).decode (·.read depthLimit)

end Dossier.Json
