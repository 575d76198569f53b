import Dossier.Json.Numeral
import Dossier.Json.Quotation
import Dossier.Json.Reader
import Dossier.Json.Value

/-! # The grammar of JSON texts

Which texts are JSON, said without a reader, and what they tell: a value where all their parts can be understood. A
string with half a pair of surrogates is JSON, and so is a number that is out of range, but they tell nothing. Texts
may nest as deep as they like.
-/

namespace Dossier.Json.Grammar

open Dossier.Number

/-- Whether a text is of blanks alone. -/
def Blank (s : List Char) : Prop :=
  ∀ c ∈ s, Reader.isSpace c = true

instance (s : List Char) : Decidable (Blank s) :=
  List.decidableBAll _ s

/-- The inside of a string, and what its parts stand for: characters and code units. -/
inductive Inside : List Char → List (Char ⊕ Nat) → Prop
  | nil : Inside [] []
  | plain {c s symbols} (quote : c ≠ '"') (backslash : c ≠ '\\') (visible : ¬c.toNat < 0x20)
      (rest : Inside s symbols) : Inside (c :: s) (.inl c :: symbols)
  | letter {letter c s symbols} (stands : Quotation.escapeLetter? letter = some c)
      (rest : Inside s symbols) : Inside ('\\' :: letter :: s) (.inl c :: symbols)
  | code {a b c d n s symbols} (spelt : Quotation.codeUnit? a b c d = some n)
      (rest : Inside s symbols) : Inside ('\\' :: 'u' :: a :: b :: c :: d :: s) (.inr n :: symbols)

/-- The characters that symbols spell, if the surrogates among them come in pairs. -/
def spelt? : List (Char ⊕ Nat) → Option (List Char)
  | [] => some []
  | .inl c :: rest => (spelt? rest).map (c :: ·)
  | .inr n :: rest =>
      if Quotation.isLow n then none
      else if Quotation.isHigh n then
        match rest with
        | .inr low :: rest =>
            if Quotation.isLow low then
              (spelt? rest).map (Char.ofNat (0x10000 + (n - 0xD800) * 0x400 + (low - 0xDC00)) :: ·)
            else none
        | _ => none
      else (spelt? rest).map (Char.ofNat n :: ·)

/-- The text that symbols spell. -/
def text? (symbols : List (Char ⊕ Nat)) : Option String :=
  (spelt? symbols).map String.ofList

/-- Whether a text is of digits, one at least. -/
def Digits (s : List Char) : Prop :=
  s ≠ [] ∧ ∀ c ∈ s, isDigit c = true

/-- Whether the parts of a numeral are as they have to be. No zero stands in front of other digits. -/
structure Parts (n : Numeral) : Prop where
  whole : Digits n.whole
  zero : ∀ rest, n.whole = '0' :: rest → rest = []
  fraction : ∀ digits ∈ n.fraction, Digits digits
  exponent : ∀ e ∈ n.exponent, Digits e.2 ∧ (e.1 = none ∨ e.1 = some '+' ∨ e.1 = some '-')

def fractionText : Option (List Char) → List Char
  | none => []
  | some digits => '.' :: digits

def exponentText (letter : Char) : Option (Option Char × List Char) → List Char
  | none => []
  | some (sign, digits) => letter :: (sign.toList ++ digits)

/-- A numeral behind its sign, with a letter in front of the exponent. -/
def unsigned (letter : Char) (n : Numeral) : List Char :=
  n.whole ++ (fractionText n.fraction ++ exponentText letter n.exponent)

/-- The values of items that all tell one. -/
def items? (told : List (Option Json)) : Option (List Json) :=
  told.mapM id

/-- The members of an object whose keys and values all tell something. -/
def members? (told : List (Option String × Option Json)) : Option (List (String × Json)) :=
  told.mapM fun member => do return (← member.1, ← member.2)

mutual
/-- The text of a value, and what it tells. -/
inductive Value : List Char → Option Json → Prop
  | null : Value ['n', 'u', 'l', 'l'] (some .null)
  | true : Value ['t', 'r', 'u', 'e'] (some (.bool true))
  | false : Value ['f', 'a', 'l', 's', 'e'] (some (.bool false))
  | number {n : Numeral} {letter : Char} (parts : Parts n) (exponent : letter = 'e' ∨ letter = 'E') :
      Value (if n.negative then '-' :: unsigned letter n else unsigned letter n) (n.value.toOption.map .number)
  | string {s symbols} (inside : Inside s symbols) :
      Value ('"' :: s ++ ['"']) ((text? symbols).map .string)
  | emptyArray {s} (blank : Blank s) : Value ('[' :: s ++ [']']) (some (.array []))
  | array {s told} (items : Items s told) : Value ('[' :: s ++ [']']) ((items? told).map .array)
  | emptyObject {s} (blank : Blank s) : Value ('{' :: s ++ ['}']) (some (.object []))
  | object {s told} (members : Members s told) : Value ('{' :: s ++ ['}']) ((members? told).map .object)

/-- The items of an array, with commas between them. -/
inductive Items : List Char → List (Option Json) → Prop
  | last {a v b o} (before : Blank a) (value : Value v o) (behind : Blank b) : Items (a ++ v ++ b) [o]
  | more {a v b s o told} (before : Blank a) (value : Value v o) (behind : Blank b) (rest : Items s told) :
      Items (a ++ v ++ b ++ ',' :: s) (o :: told)

/-- A member of an object: its key, and its value. -/
inductive Member : List Char → Option String × Option Json → Prop
  | mk {a k b c v d symbols o} (before : Blank a) (key : Inside k symbols) (behind : Blank b)
      (between : Blank c) (value : Value v o) (after : Blank d) :
      Member (a ++ '"' :: k ++ '"' :: b ++ ':' :: c ++ v ++ d) (text? symbols, o)

/-- The members of an object, with commas between them. -/
inductive Members : List Char → List (Option String × Option Json) → Prop
  | last {s m} (member : Member s m) : Members s [m]
  | more {s t m told} (member : Member s m) (rest : Members t told) : Members (s ++ ',' :: t) (m :: told)
end

/-- What stands between the braces of an object: its members with commas between them, or blanks. -/
def between (blank : List Char) : List (List Char) → List Char
  | [] => blank
  | [member] => member
  | member :: next :: rest => member ++ ',' :: between blank (next :: rest)

def objectText (blank : List Char) (members : List (List Char)) : List Char :=
  '{' :: between blank members ++ ['}']

/-- Whether the characters of a text stand for themselves in a string. -/
def Plain (s : List Char) : Prop :=
  ∀ c ∈ s, c ≠ '"' ∧ c ≠ '\\' ∧ ¬c.toNat < 0x20

instance (s : List Char) : Decidable (Plain s) :=
  List.decidableBAll _ s

theorem Plain.inside {s : List Char} (plain : Plain s) : Inside s (s.map .inl) := by
  induction s with
  | nil => exact .nil
  | cons c s ih =>
      obtain ⟨⟨quote, backslash, visible⟩, plain⟩ := List.forall_mem_cons.mp plain
      exact .plain quote backslash visible (ih plain)

theorem spelt?_plain (s : List Char) : spelt? (s.map .inl) = some s := by
  induction s with
  | nil => rfl
  | cons c s ih => rw [List.map_cons, spelt?, ih, Option.map_some]

theorem text?_plain (s : String) : text? (s.toList.map .inl) = some s := by
  rw [text?, spelt?_plain, Option.map_some, String.ofList_toList]

theorem value_plain (s : String) (plain : Plain s.toList) :
    Value ('"' :: s.toList ++ ['"']) (some (.string s)) := by
  have value := Value.string plain.inside
  rwa [text?_plain] at value

/-- A plain key and a value make a member, whatever blanks are around them. -/
theorem member_plain (key : String) (a b c d : List Char) {v : List Char} {told : Option Json}
    (plain : Plain key.toList) (blanks : ∀ s ∈ [a, b, c, d], Blank s) (value : Value v told) :
    Member (a ++ '"' :: key.toList ++ '"' :: b ++ ':' :: c ++ v ++ d) (some key, told) := by
  simp only [List.forall_mem_cons, List.not_mem_nil, false_imp_iff, implies_true, and_true] at blanks
  obtain ⟨before, behind, between, after⟩ := blanks
  have member := Member.mk before plain.inside behind between value after
  rwa [text?_plain] at member

end Dossier.Json.Grammar
