import Dossier.Number.Digits

/-! # Reading digits back

The digits of a number in a base stand for that number, leading zeros or not, and a width that the number
fits is the number of digits written.
-/

namespace Dossier.Number

theorem hexValue?_digitChar : ∀ d, d < 16 → hexValue? (digitChar d) = some d := by
  decide

theorem isDigit_digitChar : ∀ d, d < 10 → isDigit (digitChar d) = true := by
  decide

theorem digitValue_digitChar : ∀ d, d < 10 → digitValue (digitChar d) = d := by
  decide

theorem digitChar_ne_zero : ∀ d, d < 10 → 0 < d → digitChar d ≠ '0' := by
  decide

theorem digitValue_lt {c : Char} (digit : isDigit c = true) : digitValue c < 10 := by
  simp only [isDigit, Bool.and_eq_true, decide_eq_true_eq] at digit
  have nine : c.toNat ≤ '9'.toNat := digit.2
  have value : '9'.toNat = 57 := rfl
  unfold digitValue
  omega

theorem mem_digitsOnto {base fuel n : Nat} {written : List Char} {c : Char} (pos : 0 < base)
    (h : c ∈ digitsOnto base fuel n written) :
    c ∈ written ∨ ∃ d < base, c = digitChar d := by
  fun_induction digitsOnto base fuel n written with
  | case1 => exact .inl h
  | case2 fuel n written less =>
      rcases List.mem_cons.mp h with rfl | old
      · exact .inr ⟨n, less, rfl⟩
      · exact .inl old
  | case3 fuel n written _ ih =>
      rcases ih h with old | digit
      · rcases List.mem_cons.mp old with rfl | older
        · exact .inr ⟨n % base, Nat.mod_lt n pos, rfl⟩
        · exact .inl older
      · exact .inr digit

/-- To read digits in front of others is to go on from their value with the others. -/
theorem foldl_digitsOnto {base : Nat} (two : 2 ≤ base) {f : Nat → Char → Nat}
    (digit : ∀ n d, d < base → f n (digitChar d) = base * n + d)
    {fuel n : Nat} {written : List Char} (enough : n < base ^ fuel) :
    (digitsOnto base fuel n written).foldl f 0 = written.foldl f n := by
  fun_induction digitsOnto base fuel n written with
  | case1 n written =>
      obtain rfl : n = 0 := by simpa using enough
      rfl
  | case2 fuel n written less =>
      rw [List.foldl_cons, digit 0 n less, Nat.mul_zero, Nat.zero_add]
  | case3 fuel n written _ ih =>
      have fits : n / base < base ^ fuel := by
        rw [Nat.div_lt_iff_lt_mul (by omega)]
        simpa only [Nat.pow_succ] using enough
      rw [ih fits, List.foldl_cons, digit _ _ (Nat.mod_lt n (by omega)), Nat.div_add_mod]

theorem length_digitsOnto_le {base : Nat} (two : 2 ≤ base) {fuel n width : Nat}
    {written : List Char} (fits : n < base ^ width) (pos : 0 < width) :
    (digitsOnto base fuel n written).length ≤ width + written.length := by
  fun_induction digitsOnto base fuel n written generalizing width with
  | case1 => omega
  | case2 => simp only [List.length_cons]; omega
  | case3 fuel n written less ih =>
      cases width with
      | zero => omega
      | succ width =>
          have room : n / base < base ^ width := by
            rw [Nat.div_lt_iff_lt_mul (by omega)]
            simpa only [Nat.pow_succ] using fits
          have more : 0 < width := by
            rcases Nat.eq_zero_or_pos width with rfl | more
            · simp only [Nat.zero_add, Nat.pow_one] at fits
              omega
            · exact more
          have short := ih room more
          simp only [List.length_cons] at short
          omega

/-- The digits of a positive number begin with one that is not zero. -/
theorem digitsOnto_head {base : Nat} (two : 2 ≤ base) {fuel n : Nat} {written : List Char}
    (pos : 0 < n) (enough : n < base ^ fuel) :
    ∃ d rest, 0 < d ∧ d < base ∧ digitsOnto base fuel n written = digitChar d :: rest := by
  fun_induction digitsOnto base fuel n written with
  | case1 =>
      simp only [Nat.pow_zero] at enough
      omega
  | case2 fuel n written less => exact ⟨n, written, pos, less, rfl⟩
  | case3 fuel n written less ih =>
      apply ih (Nat.div_pos (by omega) (by omega))
      rw [Nat.div_lt_iff_lt_mul (by omega)]
      simpa only [Nat.pow_succ] using enough

theorem lt_pow_log2 {base : Nat} (two : 2 ≤ base) (n : Nat) : n < base ^ (n.log2 + 1) :=
  Nat.lt_of_lt_of_le Nat.lt_log2_self (Nat.pow_le_pow_left two _)

theorem isDigit_decimalDigits {n : Nat} {c : Char} (h : c ∈ decimalDigits n) : isDigit c = true := by
  rcases mem_digitsOnto (by omega) h with old | ⟨d, less, rfl⟩
  · cases old
  · exact isDigit_digitChar d less

@[simp] theorem ofDigits_decimalDigits (n : Nat) : ofDigits (decimalDigits n) = n := by
  refine foldl_digitsOnto (by omega) (fun m d less => ?_) (lt_pow_log2 (by omega) n)
  rw [digitValue_digitChar d less]

theorem decimalDigits_zero : decimalDigits 0 = ['0'] := by
  decide

theorem decimalDigits_head {n : Nat} (pos : 0 < n) :
    ∃ c rest, c ≠ '0' ∧ decimalDigits n = c :: rest := by
  obtain ⟨d, rest, dpos, less, same⟩ :=
    digitsOnto_head (by omega) pos (lt_pow_log2 (by omega : 2 ≤ 10) n)
  exact ⟨digitChar d, rest, digitChar_ne_zero d less dpos, same⟩

theorem length_decimalDigits_le {n width : Nat} (fits : n < 10 ^ width) (pos : 0 < width) :
    (decimalDigits n).length ≤ width :=
  length_digitsOnto_le (by omega) fits pos

theorem ofDigits_lt {digits : List Char} (all : ∀ c ∈ digits, isDigit c = true) :
    ofDigits digits < 10 ^ digits.length := by
  have more (digits : List Char) (n : Nat) (all : ∀ c ∈ digits, isDigit c = true) :
      digits.foldl (fun n c => 10 * n + digitValue c) n < (n + 1) * 10 ^ digits.length := by
    induction digits generalizing n with
    | nil => simp
    | cons c digits ih =>
        obtain ⟨digit, others⟩ := List.forall_mem_cons.mp all
        have less := digitValue_lt digit
        have room : 10 * n + digitValue c + 1 ≤ (n + 1) * 10 := by omega
        rw [List.foldl_cons, List.length_cons, Nat.pow_succ, Nat.mul_comm (10 ^ digits.length),
          ← Nat.mul_assoc]
        exact Nat.lt_of_lt_of_le (ih _ others) (Nat.mul_le_mul_right _ room)
  have start := more digits 0 all
  rwa [Nat.zero_add, Nat.one_mul] at start

theorem isDigit_paddedDigits {width n : Nat} {c : Char} (h : c ∈ paddedDigits width n) :
    isDigit c = true := by
  rcases List.mem_append.mp h with zero | digit
  · rw [(List.mem_replicate.mp zero).2]
    rfl
  · exact isDigit_decimalDigits digit

theorem length_paddedDigits {width n : Nat} (fits : n < 10 ^ width) (pos : 0 < width) :
    (paddedDigits width n).length = width := by
  have short := length_decimalDigits_le fits pos
  simp only [paddedDigits, List.length_append, List.length_replicate]
  omega

theorem foldl_zeros {f : Nat → Char → Nat} (zero : f 0 '0' = 0) (count : Nat) :
    (List.replicate count '0').foldl f 0 = 0 := by
  induction count with
  | zero => rfl
  | succ count ih => rw [List.replicate_succ, List.foldl_cons, zero, ih]

@[simp] theorem ofDigits_paddedDigits (width n : Nat) : ofDigits (paddedDigits width n) = n := by
  have zeros := foldl_zeros (f := fun n c => 10 * n + digitValue c) rfl
    (width - (decimalDigits n).length)
  simp only [ofDigits, paddedDigits, List.foldl_append, zeros]
  exact ofDigits_decimalDigits n

theorem hexValue?_hexDigits {width n : Nat} {c : Char} (h : c ∈ hexDigits width n) :
    ∃ d < 16, c = digitChar d := by
  rcases List.mem_append.mp h with zero | digit
  · exact ⟨0, by omega, (List.mem_replicate.mp zero).2⟩
  · exact (mem_digitsOnto (by omega) digit).resolve_left (List.not_mem_nil)

theorem length_hexDigits {width n : Nat} (fits : n < 16 ^ width) (pos : 0 < width) :
    (hexDigits width n).length = width := by
  have short : (digitsOnto 16 (n.log2 + 1) n []).length ≤ width + 0 :=
    length_digitsOnto_le (by omega) fits pos
  simp only [hexDigits, List.length_append, List.length_replicate]
  omega

theorem foldl_hexDigits {f : Nat → Char → Nat}
    (digit : ∀ n d, d < 16 → f n (digitChar d) = 16 * n + d) (width n : Nat) :
    (hexDigits width n).foldl f 0 = n := by
  have zero : f 0 '0' = 0 := digit 0 0 (by omega)
  rw [hexDigits, List.foldl_append, foldl_zeros zero]
  exact foldl_digitsOnto (by omega) digit (lt_pow_log2 (by omega) n)

end Dossier.Number
