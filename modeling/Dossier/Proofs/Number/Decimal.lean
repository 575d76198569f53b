import Dossier.Proofs.Number.Digits

/-! # Decimal digits

A number has as many digits as the power of ten that it reaches tells, and its last digit can be told from the others.
A digit is the character of its value.
-/

namespace Dossier.Number

theorem lt_pow_length (n : Nat) : n < 10 ^ (decimalDigits n).length := by
  have less : ofDigits (decimalDigits n) < 10 ^ (decimalDigits n).length := ofDigits_lt fun _ => isDigit_decimalDigits
  rwa [ofDigits_decimalDigits] at less

theorem pow_length_le {n : Nat} (pos : 0 < n) : 10 ^ ((decimalDigits n).length - 1) ≤ n := by
  refine Nat.le_of_not_lt fun short => ?_
  rcases Nat.eq_zero_or_pos ((decimalDigits n).length - 1) with none | some
  · rw [none] at short
    omega
  · have := length_decimalDigits_le short some
    omega

theorem digitsOnto_append (base fuel n : Nat) (written rest : List Char) :
    digitsOnto base fuel n (written ++ rest) = digitsOnto base fuel n written ++ rest := by
  fun_induction digitsOnto base fuel n written with
  | case1 => rfl
  | case2 fuel n written less => rw [digitsOnto, if_pos less, List.cons_append]
  | case3 fuel n written more ih => rw [digitsOnto, if_neg more, ← ih, List.cons_append]

/-- How much fuel there is does not matter, if it is enough. -/
theorem digitsOnto_enough {base fuel more n : Nat} (two : 2 ≤ base) (enough : n < base ^ (fuel + 1))
    (also : n < base ^ (more + 1)) (written : List Char) :
    digitsOnto base (fuel + 1) n written = digitsOnto base (more + 1) n written := by
  induction fuel generalizing more n written with
  | zero =>
      have less : n < base := by simpa using enough
      rw [digitsOnto, if_pos less, digitsOnto, if_pos less]
  | succ fuel ih =>
      by_cases less : n < base
      · rw [digitsOnto, if_pos less, digitsOnto, if_pos less]
      · have inner {k : Nat} (h : n < base ^ (k + 1)) : n / base < base ^ k := by
          rw [Nat.div_lt_iff_lt_mul (by omega)]
          simpa only [Nat.pow_succ] using h
        cases more with
        | zero =>
            rw [Nat.zero_add, Nat.pow_one] at also
            omega
        | succ more =>
            rw [digitsOnto, if_neg less, ih (inner enough) (inner also)]
            conv =>
              rhs
              rw [digitsOnto, if_neg less]

theorem decimalDigits_of_lt {d : Nat} (less : d < 10) : decimalDigits d = [digitChar d] := by
  rw [decimalDigits, digitsOnto, if_pos less]

theorem decimalDigits_append {n d : Nat} (pos : 0 < n) (less : d < 10) :
    decimalDigits (10 * n + d) = decimalDigits n ++ [digitChar d] := by
  have whole : (10 * n + d) / 10 = n := by omega
  have last : (10 * n + d) % 10 = d := by omega
  obtain ⟨fuel, same⟩ : ∃ fuel, (10 * n + d).log2 = fuel + 1 := by
    refine ⟨(10 * n + d).log2 - 1, ?_⟩
    have : 1 ≤ (10 * n + d).log2 := (Nat.le_log2 (by omega)).mpr (by omega)
    omega
  have enough : n < 10 ^ (fuel + 1) := by
    have all := lt_pow_log2 (by omega : 2 ≤ 10) (10 * n + d)
    rw [same, Nat.pow_succ] at all
    omega
  rw [decimalDigits, digitsOnto, if_neg (by omega), whole, last, same,
    digitsOnto_enough (by omega) enough (lt_pow_log2 (by omega) n), ← List.nil_append [digitChar d],
    digitsOnto_append]
  rfl

theorem decimalDigits_last (n : Nat) : ∃ front, decimalDigits n = front ++ [digitChar (n % 10)] := by
  rcases Nat.lt_or_ge n 10 with less | more
  · exact ⟨[], by rw [decimalDigits_of_lt less, Nat.mod_eq_of_lt less, List.nil_append]⟩
  · refine ⟨decimalDigits (n / 10), ?_⟩
    rw [← decimalDigits_append (Nat.div_pos more (by omega)) (Nat.mod_lt n (by omega)), Nat.div_add_mod]

theorem length_decimalDigits_pos (n : Nat) : 0 < (decimalDigits n).length := by
  obtain ⟨front, last⟩ := decimalDigits_last n
  rw [last, List.length_append]
  exact Nat.lt_add_left _ Nat.one_pos

theorem decimalDigits_ne_nil (n : Nat) : decimalDigits n ≠ [] :=
  List.ne_nil_of_length_pos (length_decimalDigits_pos n)

theorem decimalDigits_mul_pow {n : Nat} (pos : 0 < n) (zeros : Nat) :
    decimalDigits (n * 10 ^ zeros) = decimalDigits n ++ List.replicate zeros '0' := by
  induction zeros with
  | zero => rw [Nat.pow_zero, Nat.mul_one, List.replicate_zero, List.append_nil]
  | succ zeros ih =>
      have shifted : n * 10 ^ (zeros + 1) = 10 * (n * 10 ^ zeros) + 0 := by
        rw [Nat.pow_succ, ← Nat.mul_assoc, Nat.mul_comm _ 10, Nat.add_zero]
      rw [shifted, decimalDigits_append (Nat.mul_pos pos (Nat.pow_pos (by omega))) (by omega), ih,
        List.replicate_succ', List.append_assoc]
      rfl

theorem digitChar_digitValue {c : Char} (digit : isDigit c = true) : digitChar (digitValue c) = c := by
  have less := digitValue_lt digit
  simp only [isDigit, Bool.and_eq_true, decide_eq_true_eq] at digit
  have zero : '0'.toNat ≤ c.toNat := digit.1
  have value : '0'.toNat = 48 := rfl
  rw [digitChar, if_pos less, digitValue, Nat.add_sub_cancel' (by omega), Char.ofNat_toNat]

end Dossier.Number
