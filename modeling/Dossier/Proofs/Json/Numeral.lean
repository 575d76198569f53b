import Dossier.Json.Reader
import Dossier.Proofs.Except
import Dossier.Proofs.Number.Digits
import Mathlib.Data.List.TakeWhile

/-! # Reading numerals back

A numeral is read up to the first character that cannot belong to it, so what stands behind it does not
matter. A whole number that fits a word of 64 bits is the value of its own digits.
-/

namespace Dossier.Json.Numeral

open Dossier.Number

/-- Whether a text can stand behind a numeral without becoming a part of it. -/
def Ends (rest : List Char) : Prop :=
  ∀ c ∈ rest.head?, isDigit c = false ∧ c ≠ '.' ∧ c ≠ 'e' ∧ c ≠ 'E'

theorem ends_nil : Ends [] := by
  intro c member
  cases member

theorem span_append {p : Char → Bool} {rest : List Char} (stops : ∀ c ∈ rest.head?, p c = false)
    (s : List Char) :
    (s ++ rest).takeWhile p = s.takeWhile p ∧ (s ++ rest).dropWhile p = s.dropWhile p ++ rest := by
  induction s with
  | nil =>
      cases rest with
      | nil => exact ⟨rfl, rfl⟩
      | cons c rest => simp [stops c rfl]
  | cons c s ih =>
      cases holds : p c with
      | true => simp [holds, ih]
      | false => simp [holds]

variable {rest : List Char} {bytes : Nat} {s r : List Char}

theorem someDigits_append (ends : Ends rest) {digits : List Char}
    (h : someDigits bytes s = .ok (digits, r)) :
    someDigits bytes (s ++ rest) = .ok (digits, r ++ rest) := by
  cases s with
  | nil => cases h
  | cons c s =>
      simp only [someDigits, List.cons_append] at h ⊢
      split at h
      · rename_i digit
        obtain ⟨take, drop⟩ := span_append (fun c member => (ends c member).1) (c :: s)
        simp only [Except.ok.injEq, Prod.mk.injEq] at h
        rw [if_pos digit, ← List.cons_append, take, drop, h.1, h.2]
      · cases h

theorem scanWhole_append (ends : Ends rest) {digits : List Char}
    (h : scanWhole bytes s = .ok (digits, r)) :
    scanWhole bytes (s ++ rest) = .ok (digits, r ++ rest) := by
  unfold scanWhole at h
  split at h
  · rename_i c s
    simp only [scanWhole, List.cons_append]
    split at h
    · cases h
    · rename_i digit
      cases h
      rw [if_neg digit]
      rfl
  · rename_i notZero
    have longer := someDigits_append ends h
    unfold scanWhole
    split
    · rename_i c more same
      cases s with
      | nil => cases h
      | cons d s =>
          cases s with
          | nil =>
              simp only [List.cons_append, List.nil_append, List.cons.injEq] at same
              obtain ⟨rfl, rfl⟩ := same
              have digit : isDigit c = false := (ends c rfl).1
              cases h
              rw [if_neg (by rw [digit]; exact Bool.false_ne_true)]
              rfl
          | cons e s =>
              simp only [List.cons_append, List.cons.injEq] at same
              obtain ⟨rfl, rfl, -⟩ := same
              exact absurd rfl (notZero _ _)
    · exact longer

theorem scanFraction_append (ends : Ends rest) {digits : Option (List Char)}
    (h : scanFraction bytes s = .ok (digits, r)) :
    scanFraction bytes (s ++ rest) = .ok (digits, r ++ rest) := by
  unfold scanFraction at h
  split at h
  · rename_i s
    obtain ⟨found, some, same⟩ := map_eq_ok.mp h
    cases same
    have longer := someDigits_append ends some
    simp only [scanFraction, List.cons_append, longer, Except.map]
  · rename_i notPoint
    cases h
    unfold scanFraction
    split
    · rename_i more same
      cases s with
      | nil =>
          rw [List.nil_append] at same
          exact absurd rfl (ends '.' (by rw [same]; rfl)).2.1
      | cons c s =>
          rw [List.cons_append, List.cons.injEq] at same
          exact absurd (by rw [same.1]) (notPoint s)
    · rfl

theorem scanExponent_append (ends : Ends rest) {exponent : Option (Option Char × List Char)}
    (h : scanExponent bytes s = .ok (exponent, r)) :
    scanExponent bytes (s ++ rest) = .ok (exponent, r ++ rest) := by
  cases s with
  | nil =>
      cases h
      cases rest with
      | nil => rfl
      | cons c rest =>
          have other := ends c rfl
          simp only [List.nil_append, scanExponent]
          rw [if_neg (by simp only [other.2.2.1, other.2.2.2, or_self, not_false_eq_true])]
  | cons c s =>
      simp only [scanExponent, List.cons_append] at h ⊢
      split at h
      case isFalse other =>
        cases h
        rw [if_neg other]
        rfl
      case isTrue letter =>
        rw [if_pos letter]
        split at h
        · obtain ⟨found, some, same⟩ := map_eq_ok.mp h
          cases same
          simp only [List.cons_append, someDigits_append ends some, Except.map]
        · obtain ⟨found, some, same⟩ := map_eq_ok.mp h
          cases same
          simp only [List.cons_append, someDigits_append ends some, Except.map]
        · rename_i notPlus notMinus
          obtain ⟨found, some, same⟩ := map_eq_ok.mp h
          cases same
          cases s with
          | nil => cases some
          | cons d s =>
              have longer := someDigits_append ends some
              rw [List.cons_append] at longer ⊢
              split
              · rename_i after same
                exact absurd (by rw [(List.cons.inj same).1]) (notPlus s)
              · rename_i after same
                exact absurd (by rw [(List.cons.inj same).1]) (notMinus s)
              · rw [longer]
                rfl

/-- A numeral is scanned up to its end, whatever stands behind it. -/
theorem scan_append {negative : Bool} (ends : Ends rest) {numeral : Numeral}
    (h : scan negative s = .ok (numeral, r)) :
    scan negative (s ++ rest) = .ok (numeral, r ++ rest) := by
  simp only [scan, bind_eq_ok] at h
  obtain ⟨⟨whole, s₁⟩, h₁, ⟨fraction, s₂⟩, h₂, ⟨exponent, s₃⟩, h₃, h₄⟩ := h
  cases h₄
  simp only [scan, bind_eq_ok]
  exact ⟨_, scanWhole_append ends h₁, _, scanFraction_append ends h₂, _,
    scanExponent_append ends h₃, rfl⟩

theorem someDigits_suffix {digits : List Char} (h : someDigits bytes s = .ok (digits, r)) :
    r <:+ s := by
  cases s with
  | nil => cases h
  | cons c s =>
      simp only [someDigits] at h
      split at h
      · cases h
        exact List.dropWhile_suffix isDigit
      · cases h

theorem scanWhole_suffix {digits : List Char} (h : scanWhole bytes s = .ok (digits, r)) :
    r <:+ s := by
  unfold scanWhole at h
  split at h
  · split at h
    · cases h
    · cases h
      exact List.suffix_cons _ _
  · exact someDigits_suffix h

theorem scanFraction_suffix {digits : Option (List Char)}
    (h : scanFraction bytes s = .ok (digits, r)) : r <:+ s := by
  unfold scanFraction at h
  split at h
  · obtain ⟨found, some, same⟩ := map_eq_ok.mp h
    cases same
    exact (someDigits_suffix some).trans (List.suffix_cons _ _)
  · cases h
    exact List.suffix_rfl

theorem scanExponent_suffix {exponent : Option (Option Char × List Char)}
    (h : scanExponent bytes s = .ok (exponent, r)) : r <:+ s := by
  unfold scanExponent at h
  split at h
  · rename_i c s
    split at h
    · split at h
      · obtain ⟨found, some, same⟩ := map_eq_ok.mp h
        cases same
        exact ((someDigits_suffix some).trans (List.suffix_cons _ _)).trans (List.suffix_cons _ _)
      · obtain ⟨found, some, same⟩ := map_eq_ok.mp h
        cases same
        exact ((someDigits_suffix some).trans (List.suffix_cons _ _)).trans (List.suffix_cons _ _)
      · obtain ⟨found, some, same⟩ := map_eq_ok.mp h
        cases same
        exact (someDigits_suffix some).trans (List.suffix_cons _ _)
    · cases h
      exact List.suffix_rfl
  · cases h
    exact List.suffix_rfl

theorem scan_suffix {negative : Bool} {numeral : Numeral}
    (h : scan negative s = .ok (numeral, r)) : r <:+ s := by
  simp only [scan, bind_eq_ok] at h
  obtain ⟨⟨whole, s₁⟩, h₁, ⟨fraction, s₂⟩, h₂, ⟨exponent, s₃⟩, h₃, h₄⟩ := h
  cases h₄
  exact ((scanExponent_suffix h₃).trans (scanFraction_suffix h₂)).trans (scanWhole_suffix h₁)

theorem takeWhile_decimalDigits (n : Nat) :
    (decimalDigits n).takeWhile isDigit = decimalDigits n ∧
      (decimalDigits n).dropWhile isDigit = [] := by
  have digits : ∀ c ∈ decimalDigits n, isDigit c = true := fun c => isDigit_decimalDigits
  exact ⟨List.takeWhile_eq_self_iff.mpr digits, List.dropWhile_eq_nil_iff.mpr digits⟩

theorem scanWhole_decimalDigits (bytes n : Nat) :
    scanWhole bytes (decimalDigits n) = .ok (decimalDigits n, []) := by
  have all := takeWhile_decimalDigits n
  rcases Nat.eq_zero_or_pos n with rfl | pos
  · rw [decimalDigits_zero]
    rfl
  · obtain ⟨c, rest, notZero, digits⟩ := decimalDigits_head pos
    have digit : isDigit c = true := isDigit_decimalDigits (n := n) (by simp [digits])
    rw [digits] at all ⊢
    unfold scanWhole
    split
    · rename_i same
      exact absurd (List.cons.inj same).1 notZero
    · rw [someDigits, if_pos digit, all.1, all.2]

/-- A whole number is one numeral without point and exponent. -/
theorem scan_decimalDigits (negative : Bool) (n : Nat) :
    scan negative (decimalDigits n) = .ok (⟨negative, decimalDigits n, none, none⟩, []) := by
  simp only [scan, bind_eq_ok]
  exact ⟨_, scanWhole_decimalDigits _ n, _, rfl, _, rfl, rfl⟩

theorem le_foldl_digits (digits : List Char) (n : Nat) :
    n ≤ digits.foldl (fun n c => 10 * n + digitValue c) n := by
  induction digits generalizing n with
  | nil => exact Nat.le_refl n
  | cons c digits ih =>
      have more := ih (10 * n + digitValue c)
      rw [List.foldl_cons]
      omega

theorem appendDigits_of_le {digits : List Char} {n : Nat}
    (fits : digits.foldl (fun n c => 10 * n + digitValue c) n ≤ greatestWord) :
    appendDigits n digits = (digits.foldl (fun n c => 10 * n + digitValue c) n, []) := by
  induction digits generalizing n with
  | nil => rfl
  | cons c digits ih =>
      rw [List.foldl_cons] at fits ⊢
      have small := le_foldl_digits digits (10 * n + digitValue c)
      simp only [appendDigits]
      rw [if_neg (by omega), ih fits]

theorem appendDigits_decimalDigits {n : Nat} (fits : n ≤ greatestWord) :
    appendDigits 0 (decimalDigits n) = (n, []) := by
  have same : (decimalDigits n).foldl (fun n c => 10 * n + digitValue c) 0 = n :=
    ofDigits_decimalDigits n
  rw [appendDigits_of_le (by rw [same]; exact fits), same]

theorem value_whole {n : Nat} (fits : n ≤ 0xFFFFFFFFFFFFFFFF) :
    value ⟨false, decimalDigits n, none, none⟩ = .ok (.whole n) := by
  have word : n ≤ greatestWord := by
    unfold greatestWord
    omega
  simp only [value, appendDigits_decimalDigits word]
  rfl

theorem value_negative {n : Nat} (pos : 0 < n) (fits : n ≤ 0x8000000000000000) :
    value ⟨true, decimalDigits n, none, none⟩ = .ok (.whole (-n)) := by
  have word : n ≤ greatestWord := by
    unfold greatestWord
    omega
  simp only [value, appendDigits_decimalDigits word]
  rw [if_neg (by decide), if_neg (by omega)]

end Dossier.Json.Numeral
