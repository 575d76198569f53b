import Dossier.Proofs.Number.Shortest
import Mathlib.Data.Nat.Factorization.Basic

/-! # The search for the shortest decimal

The decimal that is found by trying one grid after the other is the shortest one, and seventeen digits are always
enough. On each grid the two neighbours of the number are enough too. Main statement: `exists_isShortest`.
-/

namespace Dossier.Number.Decimal

open Binary64

variable {m c d num den n : Nat} {e k l unit order : Int}

theorem decimalOrder_whole (below : 0 < den) (whole : den ≤ num) :
    (10 : ℚ) ^ decimalOrder num den ≤ num / den ∧ (num : ℚ) / den < 10 ^ (decimalOrder num den + 1) := by
  have den_pos : (0 : ℚ) < den := by exact_mod_cast below
  have low := pow_length_le (Nat.div_pos whole below)
  have high := lt_pow_length (num / den)
  have some := length_decimalDigits_pos (num / den)
  have under : 10 ^ ((decimalDigits (num / den)).length - 1) * den ≤ num := (Nat.le_div_iff_mul_le below).mp low
  have above : num < 10 ^ (decimalDigits (num / den)).length * den := (Nat.div_lt_iff_lt_mul below).mp high
  have exponent : ((decimalDigits (num / den)).length : Int) - 1 = ((decimalDigits (num / den)).length - 1 : Nat) := by
    omega
  rw [decimalOrder, if_pos whole, le_div_iff₀ den_pos, div_lt_iff₀ den_pos, sub_add_cancel, exponent, zpow_natCast,
    zpow_natCast]
  exact ⟨by exact_mod_cast under, by exact_mod_cast above⟩

theorem ten_zpow_neg_le_iff (below : 0 < den) : (10 : ℚ) ^ (-(n : Int)) ≤ num / den ↔ den ≤ num * 10 ^ n := by
  have den_pos : (0 : ℚ) < den := by exact_mod_cast below
  rw [zpow_neg, zpow_natCast, le_div_iff₀ den_pos, inv_mul_le_iff₀ (by positivity), mul_comm]
  exact_mod_cast Iff.rfl

theorem decimalOrder_part (above : 0 < num) (part : num < den) :
    (10 : ℚ) ^ decimalOrder num den ≤ num / den ∧ (num : ℚ) / den < 10 ^ (decimalOrder num den + 1) := by
  have below : 0 < den := above.trans part
  have low := pow_length_le (Nat.div_pos part.le above)
  have high := lt_pow_length (den / num)
  have some := length_decimalDigits_pos (den / num)
  rw [decimalOrder, if_neg (not_le.mpr part)]
  simp only []
  obtain ⟨more, same⟩ := Nat.exists_eq_succ_of_ne_zero some.ne'
  rw [same, Nat.succ_sub_one] at low ⊢
  rw [same] at high
  have under : 10 ^ more * num ≤ den := (Nat.le_div_iff_mul_le above).mp low
  have beyond : den < 10 ^ (more + 1) * num := (Nat.div_lt_iff_lt_mul above).mp high
  split
  · rename_i exact
    have order : (1 : Int) - (more + 1 : Nat) = -(more : Int) := by omega
    rw [order]
    refine ⟨(ten_zpow_neg_le_iff below).mpr exact, ?_⟩
    cases more with
    | zero => omega
    | succ more =>
        have next : -((more + 1 : Nat) : Int) + 1 = -(more : Int) := by omega
        rw [next, ← not_le, ten_zpow_neg_le_iff below]
        rw [Nat.pow_succ] at under
        have := Nat.mul_pos above (Nat.pow_pos (n := more) (by omega : 0 < 10))
        nlinarith
  · rename_i short
    have next : -((more + 1 : Nat) : Int) + 1 = -(more : Int) := by omega
    rw [next, ← not_le, ten_zpow_neg_le_iff below, ten_zpow_neg_le_iff below]
    exact ⟨by rw [Nat.mul_comm]; exact beyond.le, short⟩

/-- The order of a ratio is that of the greatest power of ten that it reaches. -/
theorem decimalOrder_spec (above : 0 < num) (below : 0 < den) :
    (10 : ℚ) ^ decimalOrder num den ≤ num / den ∧ (num : ℚ) / den < 10 ^ (decimalOrder num den + 1) := by
  rcases Nat.lt_or_ge num den with part | whole
  · exact decimalOrder_part above part
  · exact decimalOrder_whole below whole

theorem ratio_shift (num den : Nat) (k : Int) :
    ((shift num den k).1 : ℚ) / (shift num den k).2 = num / den / 10 ^ k := by
  cases k with
  | ofNat n =>
      simp only [shift, Int.ofNat_eq_natCast, zpow_natCast, Nat.cast_mul, Nat.cast_pow, Nat.cast_ofNat]
      rw [div_div]
  | negSucc n =>
      simp only [shift, zpow_negSucc, Nat.cast_mul, Nat.cast_pow, Nat.cast_ofNat]
      rw [div_inv_eq_mul, mul_div_right_comm]

theorem shift_pos (num : Nat) (pos : 0 < den) (k : Int) : 0 < (shift num den k).2 := by
  cases k with
  | ofNat n => exact Nat.mul_pos pos (Nat.pow_pos (by omega))
  | negSucc n => exact pos

theorem shift_le_iff (pos : 0 < den) :
    (shift num den k).1 ≤ c * (shift num den k).2 ↔ (num : ℚ) / den ≤ value c k := by
  have den_pos : (0 : ℚ) < (shift num den k).2 := by exact_mod_cast shift_pos num pos k
  rw [value, ← div_le_iff₀ (ten_zpow_pos k), ← ratio_shift, div_le_iff₀ den_pos]
  exact_mod_cast Iff.rfl

theorem le_shift_iff (pos : 0 < den) :
    c * (shift num den k).2 ≤ (shift num den k).1 ↔ value c k ≤ (num : ℚ) / den := by
  have den_pos : (0 : ℚ) < (shift num den k).2 := by exact_mod_cast shift_pos num pos k
  rw [value, ← le_div_iff₀ (ten_zpow_pos k), ← ratio_shift, le_div_iff₀ den_pos]
  exact_mod_cast Iff.rfl

theorem ratio_pos (m : Nat) (e : Int) : 0 < (ratio m e).2 := by
  cases e with
  | ofNat n => exact Nat.one_pos
  | negSucc n => exact Nat.two_pow_pos _

theorem ratio_one_pos (e : Int) : 0 < (ratio 1 e).1 := by
  cases e with
  | ofNat n => exact Nat.mul_pos Nat.one_pos (Nat.two_pow_pos n)
  | negSucc n => exact Nat.one_pos

theorem ratio_one (e : Int) : ((ratio 1 e).1 : ℚ) / (ratio 1 e).2 = 2 ^ e := by
  cases e with
  | ofNat n => simp [ratio]
  | negSucc n => simp [ratio, zpow_negSucc]

namespace Rounding

theorem den_pos (m : Nat) (e : Int) : 0 < (of m e).den :=
  ratio_pos 1 (e - 2)

theorem unit_eq (e : Int) : (2 : ℚ) ^ e = 4 * 2 ^ (e - 2) := by
  have split := two_zpow_add (e - 2) 2
  rw [sub_add_cancel] at split
  rw [split]
  norm_num
  ring

theorem ratio_value (m : Nat) (e : Int) : ((of m e).value : ℚ) / (of m e).den = magnitude m e := by
  simp only [of, Nat.cast_mul, mul_div_assoc, ratio_one, magnitude, unit_eq e]
  push_cast
  ring

theorem ratio_low (pos : 0 < m) (e : Int) : ((of m e).low : ℚ) / (of m e).den = lowest m e := by
  simp only [of, Nat.cast_mul, mul_div_assoc, ratio_one, lowest, reach, unit_eq e]
  by_cases power : m = 2 ^ (width - 1) ∧ leastExponent < e
  · have gap : (m = 0x10000000000000 && decide (leastExponent < e)) = true := by
      simpa [width] using power
    rw [if_pos power, if_pos gap, Nat.cast_sub (by omega)]
    push_cast
    ring
  · have gap : ¬(m = 0x10000000000000 && decide (leastExponent < e)) = true := by
      simpa [width] using power
    rw [if_neg power, if_neg gap, Nat.cast_sub (by omega)]
    push_cast
    ring

theorem ratio_high (m : Nat) (e : Int) : ((of m e).high : ℚ) / (of m e).den = highest m e := by
  simp only [of, Nat.cast_mul, mul_div_assoc, ratio_one, highest, unit_eq e]
  push_cast
  ring

/-- What a rounding holds are the decimals that round to the number. -/
theorem holds_iff (pos : 0 < m) (e unit : Int) (c : Nat) :
    (of m e).holds unit c = true ↔ Rounds (Decimal.value c unit) m e := by
  have room := den_pos m e
  unfold holds
  split
  · rename_i closed
    have even : m % 2 = 0 := by simpa [of] using closed
    rw [Bool.and_eq_true, decide_eq_true_eq, decide_eq_true_eq, shift_le_iff room, le_shift_iff room,
      ratio_low pos, ratio_high]
    exact ⟨fun within => ⟨within.1, within.2, fun _ => even⟩, fun rounds => ⟨rounds.low, rounds.high⟩⟩
  · rename_i opened
    have odd : ¬m % 2 = 0 := by simpa [of] using opened
    rw [Bool.and_eq_true, decide_eq_true_eq, decide_eq_true_eq, ← not_le, ← not_le, shift_le_iff room,
      le_shift_iff room, ratio_low pos, ratio_high, not_le, not_le]
    constructor
    · rintro ⟨low, high⟩
      exact ⟨low.le, high.le, fun same => (same.elim low.ne' high.ne).elim⟩
    · intro rounds
      exact ⟨lt_of_le_of_ne rounds.low fun same => odd (rounds.tie (.inl same.symm)),
        lt_of_le_of_ne rounds.high fun same => odd (rounds.tie (.inr same))⟩

/-- The last multiple of a power of ten that a number reaches. -/
def below (m : Nat) (e unit : Int) : Nat :=
  (shift (of m e).value (of m e).den unit).1 / (shift (of m e).value (of m e).den unit).2

theorem below_le (m : Nat) (e unit : Int) : Decimal.value (below m e unit) unit ≤ magnitude m e := by
  rw [← ratio_value, ← le_shift_iff (den_pos m e)]
  exact Nat.div_mul_le_self _ _

theorem lt_below_succ (m : Nat) (e unit : Int) : magnitude m e < Decimal.value (below m e unit + 1) unit := by
  rw [← ratio_value, ← not_le, ← le_shift_iff (den_pos m e), not_le]
  exact (Nat.div_lt_iff_lt_mul (shift_pos _ (den_pos m e) unit)).mp (Nat.lt_succ_self _)

theorem distance_below (h : c ≤ below m e unit) :
    distance c unit m e = magnitude m e - Decimal.value c unit := by
  have le := (value_le h unit).trans (below_le m e unit)
  rw [distance, abs_of_nonpos (by linarith)]
  ring

theorem distance_above (h : below m e unit < c) :
    distance c unit m e = Decimal.value c unit - magnitude m e := by
  have le := (lt_below_succ m e unit).trans_le (value_le h unit)
  rw [distance, abs_of_pos (by linarith)]

/-- Which of the two neighbours is the nearer one is told by twice the rest. -/
theorem compare_rest (m : Nat) (e unit : Int) :
    let whole := shift (of m e).value (of m e).den unit
    (2 * (whole.1 % whole.2) < whole.2 ↔
      distance (below m e unit) unit m e < distance (below m e unit + 1) unit m e) ∧
    (whole.2 < 2 * (whole.1 % whole.2) ↔
      distance (below m e unit + 1) unit m e < distance (below m e unit) unit m e) := by
  intro whole
  have pos : (0 : ℚ) < whole.2 := by exact_mod_cast shift_pos _ (den_pos m e) unit
  have step := ten_zpow_pos unit
  have split : (whole.1 : ℚ) = whole.2 * below m e unit + (whole.1 % whole.2 : Nat) := by
    exact_mod_cast (Nat.div_add_mod whole.1 whole.2).symm
  have same : magnitude m e = (below m e unit + (whole.1 % whole.2 : Nat) / whole.2) * 10 ^ unit := by
    rw [← ratio_value, ← div_eq_iff step.ne', ← ratio_shift, div_eq_iff pos.ne', add_mul, div_mul_cancel₀ _ pos.ne',
      mul_comm _ (whole.2 : ℚ)]
    exact split
  have left : distance (below m e unit) unit m e = (whole.1 % whole.2 : Nat) / whole.2 * 10 ^ unit := by
    rw [distance_below le_rfl, same, Decimal.value]
    ring
  have right : distance (below m e unit + 1) unit m e = (1 - (whole.1 % whole.2 : Nat) / whole.2) * 10 ^ unit := by
    rw [distance_above (Nat.lt_succ_self _), same, Decimal.value]
    push_cast
    ring
  rw [left, right, mul_lt_mul_iff_left₀ step, mul_lt_mul_iff_left₀ step, lt_sub_iff_add_lt, sub_lt_iff_lt_add,
    ← two_mul, ← mul_div_assoc, div_lt_one pos, one_lt_div pos]
  exact ⟨by exact_mod_cast Iff.rfl, by exact_mod_cast Iff.rfl⟩

theorem distance_below_le (h : d ≤ below m e unit) : distance (below m e unit) unit m e ≤ distance d unit m e := by
  rw [distance_below le_rfl, distance_below h]
  linarith [value_le h unit]

theorem eq_below (h : d ≤ below m e unit) (same : distance (below m e unit) unit m e = distance d unit m e) :
    d = below m e unit := by
  rw [distance_below le_rfl, distance_below h] at same
  refine Nat.le_antisymm h (Nat.le_of_not_lt fun less => ?_)
  have apart : Decimal.value d unit < Decimal.value (below m e unit) unit := value_lt_iff.mpr less
  linarith

theorem distance_above_le (h : below m e unit < d) :
    distance (below m e unit + 1) unit m e ≤ distance d unit m e := by
  rw [distance_above (Nat.lt_succ_self _), distance_above h]
  linarith [value_le h unit]

theorem eq_above (h : below m e unit < d) (same : distance (below m e unit + 1) unit m e = distance d unit m e) :
    d = below m e unit + 1 := by
  rw [distance_above (Nat.lt_succ_self _), distance_above h] at same
  refine Nat.le_antisymm (Nat.le_of_not_lt fun less => ?_) h
  have apart : Decimal.value (below m e unit + 1) unit < Decimal.value d unit := value_lt_iff.mpr less
  linarith

/-- If a decimal on a grid rounds to a number, one of the two neighbours on that grid does. -/
theorem rounds_neighbour (rounds : Rounds (Decimal.value d unit) m e) :
    (d ≤ below m e unit → Rounds (Decimal.value (below m e unit) unit) m e) ∧
    (below m e unit < d → Rounds (Decimal.value (below m e unit + 1) unit) m e) := by
  constructor
  · intro le
    exact rounds.between (rounds_magnitude m e) (value_le le unit) (below_le m e unit)
  · intro more
    exact (rounds_magnitude m e).between rounds (lt_below_succ m e unit).le (value_le more unit)

/-- Whether one of the two neighbours on a grid is the nearest decimal on it that rounds to the number, and even if
another one is as near. -/
structure Best (m : Nat) (e unit : Int) (c : Nat) : Prop where
  rounds : Rounds (Decimal.value c unit) m e
  beside : c = below m e unit ∨ c = below m e unit + 1
  near : ∀ d, Rounds (Decimal.value d unit) m e → distance c unit m e ≤ distance d unit m e
  tie : ∀ d, Rounds (Decimal.value d unit) m e → distance c unit m e = distance d unit m e → d = c ∨ c % 2 = 0

theorem best_below (rounds : Rounds (Decimal.value (below m e unit) unit) m e)
    (nearer : Rounds (Decimal.value (below m e unit + 1) unit) m e →
      distance (below m e unit) unit m e < distance (below m e unit + 1) unit m e) :
    Best m e unit (below m e unit) := by
  have far {d : Nat} (more : below m e unit < d) (also : Rounds (Decimal.value d unit) m e) :
      distance (below m e unit) unit m e < distance d unit m e :=
    (nearer ((rounds_neighbour also).2 more)).trans_le (distance_above_le more)
  refine ⟨rounds, .inl rfl, fun d also => ?_, fun d also same => ?_⟩
  · rcases Nat.lt_or_ge (below m e unit) d with more | le
    · exact (far more also).le
    · exact distance_below_le le
  · rcases Nat.lt_or_ge (below m e unit) d with more | le
    · exact absurd same (far more also).ne
    · exact .inl (eq_below le same)

theorem best_above (rounds : Rounds (Decimal.value (below m e unit + 1) unit) m e)
    (nearer : Rounds (Decimal.value (below m e unit) unit) m e →
      distance (below m e unit + 1) unit m e < distance (below m e unit) unit m e) :
    Best m e unit (below m e unit + 1) := by
  have far {d : Nat} (le : d ≤ below m e unit) (also : Rounds (Decimal.value d unit) m e) :
      distance (below m e unit + 1) unit m e < distance d unit m e :=
    (nearer ((rounds_neighbour also).1 le)).trans_le (distance_below_le le)
  refine ⟨rounds, .inr rfl, fun d also => ?_, fun d also same => ?_⟩
  · rcases Nat.lt_or_ge (below m e unit) d with more | le
    · exact distance_above_le more
    · exact (far le also).le
  · rcases Nat.lt_or_ge (below m e unit) d with more | le
    · exact .inl (eq_above more same)
    · exact absurd same (far le also).ne

theorem best_of_even (rounds : Rounds (Decimal.value c unit) m e)
    (beside : c = below m e unit ∨ c = below m e unit + 1) (even : c % 2 = 0)
    (same : distance (below m e unit) unit m e = distance (below m e unit + 1) unit m e) : Best m e unit c := by
  have own : distance c unit m e = distance (below m e unit) unit m e := by
    rcases beside with rfl | rfl
    · rfl
    · exact same.symm
  refine ⟨rounds, beside, fun d _ => ?_, fun _ _ _ => .inr even⟩
  rw [own]
  rcases Nat.lt_or_ge (below m e unit) d with more | le
  · exact same.trans_le (distance_above_le more)
  · exact distance_below_le le

theorem pick_eq_some (pos : 0 < m) (picked : (of m e).pick unit = some c) : Best m e unit c := by
  have first := holds_iff pos e unit (below m e unit)
  have second := holds_iff pos e unit (below m e unit + 1)
  obtain ⟨lower, upper⟩ := compare_rest m e unit
  rw [pick] at picked
  split at picked
  · rename_i holds refused
    cases picked
    exact best_below (first.mp holds) fun rounds => absurd (second.mpr rounds) (ne_true_of_eq_false refused)
  · rename_i refused holds
    cases picked
    exact best_above (second.mp holds) fun rounds => absurd (first.mpr rounds) (ne_true_of_eq_false refused)
  · cases picked
  · rename_i holds also
    split_ifs at picked with under beyond even
    · cases picked
      exact best_below (first.mp holds) fun _ => lower.mp under
    · cases picked
      exact best_above (second.mp also) fun _ => upper.mp beyond
    all_goals
      cases picked
      have same : distance (below m e unit) unit m e = distance (below m e unit + 1) unit m e :=
        le_antisymm (not_lt.mp fun less => beyond (upper.mpr less)) (not_lt.mp fun less => under (lower.mpr less))
    · exact best_of_even (first.mp holds) (.inl rfl) even same
    · have odd : ¬below m e unit % 2 = 0 := even
      exact best_of_even (second.mp also) (.inr rfl) (by omega) same

theorem not_rounds_of_pick (pos : 0 < m) (none : (of m e).pick unit = none) (d : Nat) :
    ¬Rounds (Decimal.value d unit) m e := by
  intro rounds
  have first := holds_iff pos e unit (below m e unit)
  have second := holds_iff pos e unit (below m e unit + 1)
  rw [pick] at none
  split at none
  · cases none
  · cases none
  · rename_i left right
    rcases Nat.lt_or_ge (below m e unit) d with more | le
    · exact absurd (second.mpr ((rounds_neighbour rounds).2 more)) (ne_true_of_eq_false right)
    · exact absurd (first.mpr ((rounds_neighbour rounds).1 le)) (ne_true_of_eq_false left)
  · split_ifs at none

/-- A search ends on the first grid on which something is picked, or has tried all. -/
theorem search_cases (r : Rounding) (order : Int) (fuel count : Nat) :
    (∃ n c, count ≤ n ∧ r.search order fuel count = (c, order - n + 1) ∧ r.pick (order - n + 1) = some c ∧
      ∀ j, count ≤ j → j < n → r.pick (order - j + 1) = none) ∨
    ∀ j, count ≤ j → j < count + fuel → r.pick (order - j + 1) = none := by
  induction fuel generalizing count with
  | zero => exact .inr fun j least less => by omega
  | succ fuel ih =>
      rw [search]
      cases picked : r.pick (order - count + 1) with
      | some c => exact .inl ⟨count, c, le_rfl, rfl, picked, fun j least less => by omega⟩
      | none =>
          have here (j : Nat) (least : count ≤ j) : j = count ∨ count + 1 ≤ j := by omega
          rcases ih (count + 1) with ⟨n, c, later, found, last, before⟩ | never
          · refine .inl ⟨n, c, by omega, found, last, fun j least less => ?_⟩
            rcases here j least with rfl | more
            · exact picked
            · exact before j more less
          · refine .inr fun j least less => ?_
            rcases here j least with rfl | more
            · exact picked
            · exact never j more (by omega)

/-- On a grid that is finer than the reals apart that round to a number one of the neighbours does. -/
theorem exists_rounds_of_fine (fine : (10 : ℚ) ^ unit < highest m e - lowest m e) :
    ∃ d, Rounds (Decimal.value d unit) m e := by
  have low := below_le m e unit
  have high := lt_below_succ m e unit
  have step : Decimal.value (below m e unit + 1) unit = Decimal.value (below m e unit) unit + 10 ^ unit := by
    rw [Decimal.value, Decimal.value]
    push_cast
    ring
  rcases lt_or_ge (lowest m e) (Decimal.value (below m e unit) unit) with inside | outside
  · exact ⟨_, rounds_of_inside inside (low.trans_lt (magnitude_lt_highest m e))⟩
  · exact ⟨_, rounds_of_inside ((lowest_lt_magnitude m e).trans high) (by linarith)⟩

/-- Seventeen digits are enough. -/
theorem exists_rounds (canonical : Canonical m e) (reached : (10 : ℚ) ^ order ≤ magnitude m e) :
    ∃ d, Rounds (Decimal.value d (order - 17 + 1)) m e := by
  have share : (m : ℚ) / 10 ^ 16 < 1 / 2 + reach m e := by
    unfold reach
    split
    · rename_i power
      rw [power.1]
      norm_num [width]
    · have fits : (m : ℚ) < 2 ^ width := by exact_mod_cast canonical.fits
      rw [div_lt_iff₀ (by norm_num)]
      refine fits.trans ?_
      norm_num [width]
  have split : (10 : ℚ) ^ (order - 17 + 1) = 10 ^ order / 10 ^ 16 := by
    rw [show order - 17 + 1 = order - (16 : Nat) by omega, zpow_sub₀ (by norm_num), zpow_natCast]
  refine exists_rounds_of_fine ?_
  calc (10 : ℚ) ^ (order - 17 + 1) ≤ magnitude m e / 10 ^ 16 := by
        rw [split]
        exact div_le_div_of_nonneg_right reached (by norm_num)
    _ = m / 10 ^ 16 * 2 ^ e := by rw [magnitude, mul_div_right_comm]
    _ < (1 / 2 + reach m e) * 2 ^ e := mul_lt_mul_of_pos_right share (two_zpow_pos e)
    _ = highest m e - lowest m e := by rw [highest, lowest]; ring

end Rounding

theorem stripZeros_decimalDigits (reduced : c % 10 ≠ 0) (n : Nat) :
    stripZeros (decimalDigits c ++ List.replicate n '0') = decimalDigits c := by
  obtain ⟨front, last⟩ := decimalDigits_last c
  have other : (digitChar (c % 10) == '0') = false :=
    beq_false_of_ne (digitChar_ne_zero _ (Nat.mod_lt c (by omega)) (Nat.pos_of_ne_zero reduced))
  rw [stripZeros, List.reverse_append, List.reverse_replicate, last, List.reverse_append, List.reverse_singleton,
    List.dropWhile_append_of_pos (by simp), List.singleton_append, List.dropWhile_cons_of_neg (by simp [other])]
  simp

/-- What is between a decimal and the number above it is nearer. -/
theorem distance_le_of_between (above : value d l ≤ value c k) (below : value c k ≤ magnitude m e) :
    distance c k m e ≤ distance d l m e := by
  rw [distance, distance, abs_of_nonpos (by linarith), abs_of_nonpos (by linarith)]
  linarith

/-- If a decimal rounds to a number, one on the grid with as many digits does, and is at least as near. -/
theorem exists_rounds_on_grid (reached : (10 : ℚ) ^ order ≤ magnitude m e) (rounds : Rounds (value d l) m e)
    (few : d < 10 ^ n) (some : 0 < n) :
    ∃ c, Rounds (value c (order - n + 1)) m e ∧ distance c (order - n + 1) m e ≤ distance d l m e := by
  rcases le_or_gt (order - n + 1) l with coarse | fine
  · obtain ⟨zeros, -, same⟩ := exists_value_eq d coarse
    exact ⟨d * 10 ^ zeros, same ▸ rounds, by rw [distance, distance, same]⟩
  · -- All decimals on finer grids are below the least one with so many digits on this grid.
    have least : value (10 ^ (n - 1)) (order - n + 1) = 10 ^ order := by
      rw [value_ten_pow]
      congr 1
      omega
    have above : value d l ≤ value (10 ^ (n - 1)) (order - n + 1) :=
      calc value d l ≤ value (10 ^ n) l := value_le few.le l
        _ = 10 ^ (l + n) := value_ten_pow n l
        _ ≤ 10 ^ order := zpow_le_zpow_right₀ (by norm_num) (by omega)
        _ = value (10 ^ (n - 1)) (order - n + 1) := least.symm
    exact ⟨_, rounds.between (rounds_magnitude m e) above (least ▸ reached),
      distance_le_of_between above (least ▸ reached)⟩

theorem exists_reduced (pos : 0 < c) : ∃ d n, d % 10 ≠ 0 ∧ c = d * 10 ^ n := by
  obtain ⟨n, d, none, same⟩ := Nat.exists_eq_pow_mul_and_not_dvd pos.ne' 10 (by norm_num)
  exact ⟨d, n, fun zero => none (Nat.dvd_of_mod_eq_zero zero), by rw [same, Nat.mul_comm]⟩

/-- What is found on the first grid on which something is picked, and which digits it has. -/
structure Found (m : Nat) (e order : Int) (n c : Nat) : Prop where
  some : 0 < n
  low : (10 : ℚ) ^ order ≤ magnitude m e
  high : magnitude m e < 10 ^ (order + 1)
  picked : (Rounding.of m e).pick (order - n + 1) = Option.some c
  first : ∀ j, 1 ≤ j → j < n → (Rounding.of m e).pick (order - j + 1) = none

theorem exists_found (canonical : Canonical m e) :
    ∃ order n c, Found m e order n c ∧ shortest m e =
      ⟨stripZeros (decimalDigits c), order - n + 1 + (decimalDigits c).length - 1⟩ := by
  have above : 0 < (Rounding.of m e).value :=
    Nat.mul_pos (Nat.mul_pos (by omega) canonical.positive) (ratio_one_pos _)
  obtain ⟨low, high⟩ := decimalOrder_spec above (Rounding.den_pos m e)
  rw [Rounding.ratio_value] at low high
  generalize known : decimalOrder (Rounding.of m e).value (Rounding.of m e).den = order at low high
  rcases Rounding.search_cases (Rounding.of m e) order 17 1 with ⟨n, c, some, found, picked, first⟩ | never
  · refine ⟨order, n, c, ⟨some, low, high, picked, first⟩, ?_⟩
    simp only [shortest, known, found]
  · obtain ⟨d, rounds⟩ := Rounding.exists_rounds canonical low
    exact absurd rounds (Rounding.not_rounds_of_pick canonical.positive (never 17 (by omega) (by omega)) d)

namespace Found

variable {a t : Nat}

/-- What is found has so many digits, or is the next power of ten. -/
theorem le_pow (found : Found m e order n c) (positive : 0 < m) : c ≤ 10 ^ n := by
  have beside := (Rounding.pick_eq_some positive found.picked).beside
  have less : Rounding.below m e (order - n + 1) < 10 ^ n := by
    refine value_lt_iff.mp (((Rounding.below_le m e _).trans_lt found.high).trans_eq ?_)
    rw [value_ten_pow]
    congr 1
    omega
  omega

/-- No decimal with fewer digits rounds to the number. -/
theorem fewest (found : Found m e order n c) (positive : 0 < m) (rounds : Rounds (value d l) m e) {j : Nat}
    (few : d < 10 ^ j) : n ≤ j := by
  refine Nat.le_of_not_lt fun less => ?_
  have pos := value_pos rounds positive
  have some : 0 < j := by
    rcases Nat.eq_zero_or_pos j with rfl | some
    · omega
    · exact some
  obtain ⟨a, also, -⟩ := exists_rounds_on_grid found.low rounds few some
  exact Rounding.not_rounds_of_pick positive (found.first j some less) a also

/-- Only the next power of ten has a superfluous zero. -/
theorem eq_one (found : Found m e order n (c * 10 ^ (t + 1))) (positive : 0 < m) : n = 1 ∧ c = 1 ∧ t = 0 := by
  have rounds := (Rounding.pick_eq_some positive found.picked).rounds
  have pos := value_pos rounds positive
  have one : n = 1 := by
    by_contra other
    have some := found.some
    have coarser : value (c * 10 ^ (t + 1)) (order - n + 1) = value (c * 10 ^ t) (order - (n - 1 : Nat) + 1) := by
      rw [value_mul_pow, value_mul_pow]
      congr 1
      omega
    exact Rounding.not_rounds_of_pick positive (found.first (n - 1) (by omega) (by omega)) _ (coarser ▸ rounds)
  have most := found.le_pow positive
  rw [one, Nat.pow_one, Nat.pow_succ, ← Nat.mul_assoc] at most
  have unit : c * 10 ^ t = 1 := by
    have some : 0 < c * 10 ^ t := by
      rw [Nat.pow_succ, ← Nat.mul_assoc] at pos
      omega
    omega
  obtain ⟨whole, power⟩ := mul_eq_one.mp unit
  exact ⟨one, whole, by simpa using power⟩

/-- Without its zeros what is found has so many digits only. -/
theorem lt_pow (found : Found m e order n (c * 10 ^ t)) (positive : 0 < m) (reduced : c % 10 ≠ 0) : c < 10 ^ n := by
  have some := found.some
  cases t with
  | zero =>
      have most := found.le_pow positive
      rw [Nat.pow_zero, Nat.mul_one] at most
      refine lt_of_le_of_ne most fun power => reduced ?_
      rw [power]
      exact Nat.mod_eq_zero_of_dvd (dvd_pow_self 10 some.ne')
  | succ t =>
      obtain ⟨rfl, rfl, rfl⟩ := found.eq_one positive
      norm_num

/-- Without its zeros what is found has at most as many digits as any decimal that rounds to the number. -/
theorem noLonger (found : Found m e order n (c * 10 ^ t)) (positive : 0 < m) (reduced : c % 10 ≠ 0)
    (rounds : Rounds (value d l) m e) : NoLonger c d :=
  fun _ few => (found.lt_pow positive reduced).trans_le
    (Nat.pow_le_pow_right (by omega) (found.fewest positive rounds few))

/-- What is found is at least as near as any decimal with as few digits. -/
theorem distance_le (found : Found m e order n (c * 10 ^ t)) (positive : 0 < m) (reduced : c % 10 ≠ 0)
    (rounds : Rounds (value d l) m e) (few : NoLonger d c) :
    distance (c * 10 ^ t) (order - n + 1) m e ≤ distance d l m e := by
  have best := Rounding.pick_eq_some positive found.picked
  obtain ⟨a, also, nearer⟩ :=
    exists_rounds_on_grid found.low rounds (few n (found.lt_pow positive reduced)) found.some
  exact (best.near a also).trans nearer

/-- A decimal on the same grid or a coarser one that is as near as what is found is this, or what is found is even. -/
theorem tie (found : Found m e order n (c * 10 ^ t)) (positive : 0 < m) (rounds : Rounds (value d l) m e)
    (coarse : order - n + 1 + t ≤ l)
    (same : distance (c * 10 ^ t) (order - n + 1) m e = distance d l m e) :
    value d l = value (c * 10 ^ t) (order - n + 1) ∨ c % 2 = 0 := by
  have best := Rounding.pick_eq_some positive found.picked
  cases t with
  | zero =>
      obtain ⟨j, -, finer⟩ := exists_value_eq d (by omega : order - n + 1 ≤ l)
      rw [finer] at rounds ⊢
      have grid : distance d l m e = distance (d * 10 ^ j) (order - n + 1) m e := by rw [distance, distance, finer]
      rw [Nat.pow_zero, Nat.mul_one] at *
      exact (best.tie _ rounds (same.trans grid)).imp (fun equal => by rw [equal]) id
  | succ t =>
      -- What is found is the power of ten above the number, and a decimal on a grid as coarse is not below it.
      obtain ⟨rfl, rfl, rfl⟩ := found.eq_one positive
      have power : value (1 * 10 ^ (0 + 1)) (order - (1 : Nat) + 1) = 10 ^ (order + 1) := by
        rw [Nat.one_mul, value_ten_pow]
        congr 1
        omega
      have above : 10 ^ (order + 1) ≤ value d l :=
        calc (10 : ℚ) ^ (order + 1) ≤ 10 ^ l := zpow_le_zpow_right₀ (by norm_num) (by omega)
          _ = value 1 l := by rw [value, Nat.cast_one, one_mul]
          _ ≤ value d l := value_le (value_pos rounds positive) l
      have high := found.high
      rw [distance, distance, power, abs_of_pos (by linarith), abs_of_pos (by linarith)] at same
      exact .inl (by linarith)

end Found

theorem exists_isShortest (canonical : Canonical m e) :
    ∃ c k, IsShortest m e c k ∧ shortest m e = .of c k := by
  have positive := canonical.positive
  obtain ⟨order, n, whole, found, same⟩ := exists_found canonical
  have rounds := (Rounding.pick_eq_some positive found.picked).rounds
  obtain ⟨c, t, reduced, rfl⟩ := exists_reduced (value_pos rounds positive)
  have equal : value (c * 10 ^ t) (order - n + 1) = value c (order - n + 1 + t) := value_mul_pow c t _
  have far : distance (c * 10 ^ t) (order - n + 1) m e = distance c (order - n + 1 + t) m e := by
    rw [distance, distance, equal]
  refine ⟨c, order - n + 1 + t, ⟨reduced, equal ▸ rounds, ?fewest, ?nearest, ?tie⟩, ?same⟩
  case fewest => exact fun d l other => found.noLonger positive reduced other
  case nearest => exact fun d l other few => far ▸ found.distance_le positive reduced other few
  case tie => exact fun d l other few coarse near => equal ▸ found.tie positive other coarse (far.trans near)
  case same =>
    rw [same, decimalDigits_mul_pow (by omega), stripZeros_decimalDigits reduced, of]
    simp only [List.length_append, List.length_replicate, Decimal.mk.injEq, true_and]
    omega

end Dossier.Number.Decimal
