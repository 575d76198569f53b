import Dossier.Number.Layout
import Dossier.Proofs.Number.Literal

/-! # Plain decimals

A number is written as its shortest decimal, without an exponent and without superfluous zeros. What is written is a
literal for the number, and numbers that literals stand for are written in one way only. Main statements:
`prints_iff` and `Prints.literal`.
-/

namespace Dossier.Number

open Binary64 Decimal

/-- A decimal without exponent and without superfluous zeros: zeros stand behind a whole number only, and in front of
one below one. -/
inductive Plain (c : Nat) : Int → List Char → Prop
  | whole (n : Nat) : Plain c n (decimalDigits c ++ List.replicate n '0')
  | split {s t} (digits : decimalDigits c = s ++ t) (first : s ≠ []) (last : t ≠ []) :
      Plain c (-(t.length : Int)) (s ++ '.' :: t)
  | part (n : Nat) : Plain c (-(n + (decimalDigits c).length : Int))
      ('0' :: '.' :: (List.replicate n '0' ++ decimalDigits c))

/-- The sign that is written in front of a number. -/
def minus (negative : Bool) : List Char :=
  if negative then ['-'] else []

/-- How a number is written. -/
inductive Prints : Binary64 → List Char → Prop
  | nan : Prints .nan "NaN".toList
  | infinite (negative) : Prints (.infinite negative) (minus negative ++ "inf".toList)
  | zero (negative e) : Prints (.finite negative 0 e) (minus negative ++ "0".toList)
  | shortest {negative m e c k s} (positive : 0 < m) (shortest : IsShortest m e c k) (plain : Plain c k s) :
      Prints (.finite negative m e) (minus negative ++ s)

/-- Whether a number is one that a literal can stand for: its significand and exponent are those that the format has. -/
def Binary64.Regular : Binary64 → Prop
  | .finite _ m e => Canonical m e ∨ m = 0 ∧ e = leastExponent
  | _ => True

variable {c m : Nat} {k e : Int} {s t : List Char} {negative : Bool} {x : Binary64}

/-- A decimal is written plainly by the layout without exponents. -/
theorem plain_of (c : Nat) (k : Int) : Plain c k (Layout.bare.plain (.of c k)) := by
  have some := length_decimalDigits_pos c
  have order : (Decimal.of c k).order = k + (decimalDigits c).length - 1 := rfl
  have digits : (Decimal.of c k).digits = decimalDigits c := rfl
  unfold Layout.plain
  rw [order, digits]
  split
  · rename_i small
    obtain ⟨n, rfl⟩ : ∃ n : Nat, k = -(n + (decimalDigits c).length : Int) :=
      ⟨(-k - (decimalDigits c).length).toNat, by omega⟩
    have zeros : (-(-(n + (decimalDigits c).length : Int) + (decimalDigits c).length - 1) - 1).toNat = n := by omega
    rw [zeros]
    exact .part n
  · rename_i large
    rcases Int.lt_or_le k 0 with below | above
    · obtain ⟨front, back, parts, first, rfl⟩ : ∃ front back, decimalDigits c = front ++ back ∧ front ≠ [] ∧
          k = -(back.length : Int) := by
        refine ⟨_, _, (List.take_append_drop ((decimalDigits c).length + k).toNat _).symm, ?_, ?_⟩
        · refine List.ne_nil_of_length_pos ?_
          rw [List.length_take]
          omega
        · rw [List.length_drop]
          omega
      have last : back ≠ [] := List.ne_nil_of_length_pos (by omega)
      have count : (-(back.length : Int) + (front ++ back).length - 1).toNat + 1 = front.length := by
        have := List.length_pos_of_ne_nil first
        rw [List.length_append]
        omega
      simp only [parts, count, List.take_left, List.drop_left]
      rw [Nat.sub_eq_zero_of_le (by rw [List.length_append]; omega), List.isEmpty_eq_false_iff.mpr last,
        List.replicate_zero, List.append_nil]
      exact .split parts first last
    · obtain ⟨n, rfl⟩ := Int.eq_ofNat_of_zero_le above
      have count : (n + (decimalDigits c).length - 1 : Int).toNat + 1 = (decimalDigits c).length + n := by omega
      simp only [count, Layout.bare, List.take_of_length_le (Nat.le_add_right _ _),
        List.drop_of_length_le (Nat.le_add_right _ _), Nat.add_sub_cancel_left, List.isEmpty_nil, Bool.not_true,
        Bool.false_eq_true, if_false, List.append_nil]
      exact .whole n

theorem Plain.unique (first : Plain c k s) (second : Plain c k t) : s = t := by
  have count := length_decimalDigits_pos c
  generalize same : k = l at second
  cases first with
  | whole n =>
      cases second with
      | whole j =>
          obtain rfl := Int.ofNat.inj same
          rfl
      | split digits first last =>
          have := List.length_pos_of_ne_nil last
          omega
      | part j => omega
  | split digits first last =>
      rename_i front back
      have total := congrArg List.length digits
      have some := List.length_pos_of_ne_nil first
      have more := List.length_pos_of_ne_nil last
      rw [List.length_append] at total
      cases second with
      | whole j => omega
      | split also _ _ =>
          obtain ⟨rfl, rfl⟩ := List.append_inj' (digits.symm.trans also) (by omega)
          rfl
      | part j => omega
  | part n =>
      cases second with
      | whole j => omega
      | split digits first last =>
          have total := congrArg List.length digits
          have some := List.length_pos_of_ne_nil first
          rw [List.length_append] at total
          omega
      | part j =>
          obtain rfl : n = j := by omega
          rfl

theorem digits_decimalDigits (n : Nat) : Digits (decimalDigits n) n := by
  have known := Digits.mk (decimalDigits_ne_nil n) fun c => isDigit_decimalDigits
  rwa [ofDigits_decimalDigits] at known

theorem digits_zeros (c n : Nat) : Digits ('0' :: (List.replicate n '0' ++ decimalDigits c)) c := by
  have padded : '0' :: (List.replicate n '0' ++ decimalDigits c) =
      paddedDigits (n + 1 + (decimalDigits c).length) c := by
    rw [paddedDigits, Nat.add_sub_cancel, List.replicate_succ, List.cons_append]
  have known := Digits.mk (List.cons_ne_nil _ _) fun d member => isDigit_paddedDigits (padded ▸ member)
  rwa [padded, ofDigits_paddedDigits, ← padded] at known

theorem Figures.unsigned {n : Nat} (figures : Figures s c n) : Unsigned s (value c (-(n : Int))) := by
  have known := Unsigned.mk figures .none
  rwa [List.append_nil, zero_sub] at known

/-- A plain decimal has the value that it is written for. -/
theorem Plain.unsigned (plain : Plain c k s) (pos : 0 < c) : Unsigned s (value c k) := by
  cases plain with
  | whole n =>
      have digits := digits_decimalDigits (c * 10 ^ n)
      rw [decimalDigits_mul_pow pos] at digits
      have known := (Figures.whole digits).unsigned
      rwa [value_mul_pow, Nat.cast_zero, neg_zero, zero_add] at known
  | split digits first last =>
      exact (Figures.point (digits ▸ digits_decimalDigits c)).unsigned
  | part n =>
      have figures : Figures ('0' :: '.' :: (List.replicate n '0' ++ decimalDigits c)) c
          (List.replicate n '0' ++ decimalDigits c).length := .point (s := ['0']) (digits_zeros c n)
      have known := figures.unsigned
      rwa [List.length_append, List.length_replicate, Nat.cast_add] at known

theorem Literal.regular (literal : Literal s x) : x.Regular := by
  obtain ⟨-, body⟩ := literal
  cases body with
  | special word => cases word <;> trivial
  | decimal unsigned rounded =>
      cases rounded with
      | zero small => exact .inr ⟨rfl, rfl⟩
      | finite canonical rounds => exact .inl canonical
      | infinite large => trivial

theorem prints_text (regular : x.Regular) : Prints x (Layout.bare.text x).toList := by
  cases x with
  | nan => exact .nan
  | infinite negative => cases negative <;> exact .infinite _
  | finite negative m e =>
      unfold Layout.text
      rcases regular with canonical | ⟨rfl, rfl⟩
      · obtain ⟨c, k, shortest, same⟩ := exists_isShortest canonical
        have positive := canonical.positive
        simp only [if_neg positive.ne', String.toList_ofList, same]
        exact .shortest positive shortest (plain_of c k)
      · simp only [if_true, String.toList_ofList]
        exact .zero negative leastExponent

theorem Prints.unique (first : Prints x s) (second : Prints x t) : s = t := by
  cases first with
  | nan =>
      cases second
      rfl
  | infinite negative =>
      cases second
      rfl
  | zero negative e =>
      cases second with
      | zero => rfl
      | shortest positive => exact absurd rfl positive.ne'
  | shortest positive shortest plain =>
      cases second with
      | zero => exact absurd rfl positive.ne'
      | shortest _ also plain' =>
          obtain ⟨rfl, rfl⟩ := shortest.unique also positive
          rw [plain.unique plain']

/-- Numbers that literals stand for are written as they print. -/
theorem prints_iff (regular : x.Regular) : Prints x s ↔ (Layout.bare.text x).toList = s := by
  constructor
  · exact (prints_text regular).unique
  · rintro rfl
    exact prints_text regular

theorem sign_minus (negative : Bool) : Sign (minus negative) negative := by
  cases negative
  · exact .none
  · exact .minus

/-- What is written of a number is a literal for it. -/
theorem Prints.literal (prints : Prints x s) (regular : x.Regular) : Literal s x := by
  cases prints with
  | nan => exact ⟨.none, .special (.nan rfl)⟩
  | infinite negative => exact ⟨sign_minus negative, .special (.infinite (.inl rfl))⟩
  | zero negative e =>
      have least : e = leastExponent := regular.elim (fun canonical => absurd rfl canonical.positive.ne') And.right
      have zero : Unsigned "0".toList (value 0 0) := (Figures.whole (digits_decimalDigits 0)).unsigned
      refine ⟨sign_minus negative, .decimal zero ?_⟩
      rw [least]
      refine .zero ?_
      rw [value, Nat.cast_zero, zero_mul, magnitude]
      positivity
  | shortest positive shortest plain =>
      have canonical := regular.resolve_right fun none => positive.ne' none.1
      exact ⟨sign_minus _, .decimal (plain.unsigned (value_pos shortest.rounds positive))
        (.finite canonical shortest.rounds)⟩

theorem Whole.unique {n m : Int} (first : Whole s n) (second : Whole s m) : n = m :=
  Option.some.inj ((readInt?_eq_some.mpr first).symm.trans (readInt?_eq_some.mpr second))

theorem Whole.characters {n : Int} (whole : Whole s n) : ∀ d ∈ s, isDigit d = true ∨ d = '+' ∨ d = '-' := by
  obtain ⟨sign, some, all⟩ := whole
  intro d member
  rcases List.mem_append.mp member with front | digit
  · cases sign with
    | none => cases front
    | plus => exact .inr (.inl (List.mem_singleton.mp front))
    | minus => exact .inr (.inr (List.mem_singleton.mp front))
  · exact .inl (all d digit)

theorem whole_minus (negative : Bool) (n : Nat) :
    Whole (minus negative ++ decimalDigits n) (if negative then -(n : Int) else n) :=
  ⟨sign_minus negative, digits_decimalDigits n⟩

theorem toList_decimalInt (n : Int) : (decimalInt n).toList = minus (n < 0) ++ decimalDigits n.natAbs := by
  cases n with
  | ofNat n =>
      have sign : decide (Int.ofNat n < 0) = false := decide_eq_false (Int.not_lt.mpr (Int.natCast_nonneg n))
      rw [sign, decimalInt, decimal, String.toList_ofList]
      rfl
  | negSucc n =>
      have sign : decide (Int.negSucc n < 0) = true := decide_eq_true (by omega)
      simp only [sign, decimalInt, decimal, String.toList_append, String.toList_ofList, Int.natAbs_negSucc]
      rfl

theorem whole_decimalInt (n : Int) : Whole (decimalInt n).toList n := by
  have known := whole_minus (n < 0) n.natAbs
  have same : (if decide (n < 0) = true then -(n.natAbs : Int) else n.natAbs) = n := by
    simp only [decide_eq_true_eq]
    omega
  rwa [same, ← toList_decimalInt] at known

/-- Digits behind a minus are written as the integer is that they stand for, if it is not zero behind the minus. -/
theorem toList_decimalInt_of_whole {n : Nat} {j : Int} (whole : Whole (minus negative ++ decimalDigits n) j)
    (some : negative = true → 0 < n) : minus negative ++ decimalDigits n = (decimalInt j).toList := by
  obtain rfl := whole.unique (whole_minus negative n)
  rw [toList_decimalInt]
  cases negative with
  | false =>
      have sign : decide ((n : Int) < 0) = false := decide_eq_false (Int.not_lt.mpr (Int.natCast_nonneg n))
      simp only [Bool.false_eq_true, if_false, sign, Int.natAbs_natCast]
  | true =>
      have pos := some rfl
      have sign : decide (-(n : Int) < 0) = true := decide_eq_true (by omega)
      simp only [if_true, sign, Int.natAbs_neg, Int.natAbs_natCast]

/-- Where what is written of a number is a whole number, it is written as the integer is, if it is not zero behind a
minus. -/
theorem Prints.whole {n : Int} (prints : Prints x s) (whole : Whole s n) :
    s = (decimalInt n).toList ∨ s = "-0".toList := by
  cases prints with
  | nan => exact absurd (whole.characters 'N' (by decide)) (by decide)
  | infinite negative => exact absurd (whole.characters 'i' (by simp)) (by decide)
  | zero negative e =>
      cases negative with
      | true => exact .inr rfl
      | false => exact .inl (toList_decimalInt_of_whole (n := 0) whole (by simp))
  | shortest positive shortest plain =>
      rename_i negative m e c k s
      have pos := value_pos shortest.rounds positive
      cases plain with
      | whole n =>
          rw [← decimalDigits_mul_pow pos] at whole ⊢
          exact .inl (toList_decimalInt_of_whole whole fun _ => Nat.mul_pos pos (Nat.pow_pos (by omega)))
      | split digits first last => exact absurd (whole.characters '.' (by simp)) (by decide)
      | part n => exact absurd (whole.characters '.' (by simp)) (by decide)

end Dossier.Number
