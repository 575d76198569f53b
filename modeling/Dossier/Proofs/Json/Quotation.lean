import Dossier.Json.Reader
import Dossier.Proofs.Number.Digits

/-! # Reading strings back

Every character of a printed string is one unit of it, and the units spell the characters that were
printed. Main statement: `readQuotation_print`.
-/

namespace Dossier.Json

open Dossier.Number

namespace Quotation

/-- Whether a unit spells a character, whatever comes behind it. -/
def Spells (unit : StringUnit) (c : Char) : Prop :=
  ∀ stringEnd rest, characters stringEnd (unit :: rest) = (characters stringEnd rest).map (c :: ·)

theorem spells_code {c : Char} {stop : Position} (control : c.toNat < 0x20) :
    Spells (.code c.toNat stop) c := by
  intro stringEnd rest
  have low : isLow c.toNat = false := by simp [isLow]; omega
  have high : isHigh c.toNat = false := by simp [isHigh]; omega
  rw [characters.eq_def]
  simp only [low, high, Bool.false_eq_true, if_false, Char.ofNat_toNat]

theorem units_plain {p : Position} {c : Char} {rest : List Char} (quote : c ≠ '"')
    (backslash : c ≠ '\\') (visible : ¬c.toNat < 0x20) :
    units p (c :: rest) =
      (.plain c (p.past c) :: (units (p.past c) rest).1, (units (p.past c) rest).2) := by
  rw [units.eq_def]
  split
  · contradiction
  · simp_all
  · simp_all
  · simp_all

theorem units_code {p : Position} {a b c d : Char} {n : Nat} (spelt : codeUnit? a b c d = some n)
    (rest : List Char) :
    units p ('\\' :: 'u' :: a :: b :: c :: d :: rest) =
      (.code n (p.skip 6) :: (units (p.skip 6) rest).1, (units (p.skip 6) rest).2) := by
  simp only [units, spelt]

theorem codeUnit?_hexDigits {n : Nat} (fits : n < 0x10000) :
    ∃ a b c d, hexDigits 4 n = [a, b, c, d] ∧ codeUnit? a b c d = some n := by
  have value : (hexDigits 4 n).foldl (fun m c => 16 * m + (hexValue? c).getD 0) 0 = n :=
    foldl_hexDigits (fun m d less => by rw [hexValue?_digitChar d less]; rfl) 4 n
  have digits : ∀ x ∈ hexDigits 4 n, ∃ d < 16, x = digitChar d := fun x => hexValue?_hexDigits
  match same : hexDigits 4 n, length_hexDigits fits (by omega) with
  | [a, b, c, d], _ =>
      simp only [same, List.forall_mem_cons] at digits
      obtain ⟨⟨a, la, rfl⟩, ⟨b, lb, rfl⟩, ⟨c, lc, rfl⟩, ⟨d, ld, rfl⟩, -⟩ := digits
      refine ⟨_, _, _, _, rfl, ?_⟩
      simp only [same, List.foldl_cons, List.foldl_nil, hexValue?_digitChar, la, lb, lc, ld,
        Option.getD_some] at value
      simp only [codeUnit?, hexValue?_digitChar, la, lb, lc, ld, Option.bind_eq_bind,
        Option.bind_some, Option.pure_def, Option.some.injEq]
      omega

/-- A printed character is read as one unit that spells it. -/
theorem units_escape (p : Position) (c : Char) (rest : List Char) :
    ∃ unit stop, units p (escape c ++ rest) =
      (unit :: (units stop rest).1, (units stop rest).2) ∧ Spells unit c := by
  unfold escape
  repeat' split
  case isFalse.isFalse.isFalse.isFalse.isFalse.isFalse.isFalse.isTrue control =>
    obtain ⟨a, b, d, e, digits, spelt⟩ := codeUnit?_hexDigits (n := c.toNat) (by omega)
    exact ⟨_, _, by rw [digits]; exact units_code spelt rest, spells_code control⟩
  case isFalse.isFalse.isFalse.isFalse.isFalse.isFalse.isFalse.isFalse quote backslash _ _ _ _ _ visible =>
    exact ⟨_, _, units_plain quote backslash visible, fun _ _ => rfl⟩
  all_goals
    subst c
    exact ⟨_, _, rfl, fun _ _ => rfl⟩

/-- A printed text is read as units that spell it, up to the quote behind it. -/
theorem units_flatMap_escape (text : List Char) (p : Position) (rest : List Char) :
    ∃ found stop, units p (text.flatMap escape ++ '"' :: rest) = (found, .closed stop rest) ∧
      characters (.closed stop rest) found = .ok text := by
  induction text generalizing p with
  | nil => exact ⟨_, _, rfl, rfl⟩
  | cons c text ih =>
      obtain ⟨unit, next, read, spells⟩ := units_escape p c (text.flatMap escape ++ '"' :: rest)
      obtain ⟨found, stop, more, spelt⟩ := ih next
      refine ⟨unit :: found, stop, ?_, ?_⟩
      · rw [List.flatMap_cons, List.append_assoc, read, more]
      · rw [spells, spelt]
        rfl

end Quotation

/-- A printed string is read as its text, to one who wants it as to one who passes over it. -/
theorem readQuotation_print (s : String) (p : Position) (rest : List Char) :
    ∃ stop, Reader.readQuotation p (s.toList.flatMap escape ++ '"' :: rest) =
      (.ok s, .ok (stop, rest)) := by
  obtain ⟨found, stop, read, spelt⟩ := Quotation.units_flatMap_escape s.toList (p.skip 1) rest
  refine ⟨stop, ?_⟩
  simp only [Reader.readQuotation, read, spelt, StringEnd.skip, Except.map, String.ofList_toList]

end Dossier.Json
