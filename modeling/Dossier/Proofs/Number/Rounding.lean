import Dossier.Number.Binary64
import Mathlib.Algebra.Order.Field.Power
import Mathlib.Tactic.FieldSimp
import Mathlib.Tactic.Linarith
import Mathlib.Tactic.NormNum
import Mathlib.Tactic.Positivity
import Mathlib.Tactic.Ring

/-! # Rounding to the nearest number

The reals that round to a number lie between the middles to its two neighbours; a middle belongs to the neighbour
with the even significand. What is taken for the nearest number to a ratio is the one that the ratio rounds to, and
no other number is. Main statements: `rounded_nearest` and `Rounded.unique`.
-/

namespace Dossier.Number.Binary64

/-- The value of a significand with a power of two. -/
def magnitude (m : Nat) (e : Int) : ℚ :=
  m * 2 ^ e

/-- Whether a significand and an exponent are those that the format has for a positive number. Only numbers with the
least exponent leave the first bit of the significand unused. -/
structure Canonical (m : Nat) (e : Int) : Prop where
  positive : 0 < m
  fits : m < 2 ^ width
  least : leastExponent ≤ e
  greatest : e ≤ greatestExponent
  full : 2 ^ (width - 1) ≤ m ∨ e = leastExponent

/-- How far below a number the reals begin that round to it, in units of its last bit. Below a power of two the numbers
are twice as dense as above it. -/
def reach (m : Nat) (e : Int) : ℚ :=
  if m = 2 ^ (width - 1) ∧ leastExponent < e then 1 / 4 else 1 / 2

/-- The middle between a number and the one below it. -/
def lowest (m : Nat) (e : Int) : ℚ :=
  (m - reach m e) * 2 ^ e

/-- The middle between a number and the one above it. -/
def highest (m : Nat) (e : Int) : ℚ :=
  (m + 1 / 2) * 2 ^ e

/-- Whether a real rounds to a positive number. -/
structure Rounds (v : ℚ) (m : Nat) (e : Int) : Prop where
  low : lowest m e ≤ v
  high : v ≤ highest m e
  tie : v = lowest m e ∨ v = highest m e → m % 2 = 0

/-- The least real that is too large for every number. -/
def overflow : ℚ :=
  highest (2 ^ width - 1) greatestExponent

/-- Whether a real that is not negative rounds to a number, with a sign put in front of both. -/
inductive Rounded (negative : Bool) (v : ℚ) : Binary64 → Prop
  | zero (small : v ≤ magnitude 1 leastExponent / 2) : Rounded negative v (.finite negative 0 leastExponent)
  | finite {m e} (canonical : Canonical m e) (rounds : Rounds v m e) : Rounded negative v (.finite negative m e)
  | infinite (large : overflow ≤ v) : Rounded negative v (.infinite negative)

variable {m n num den : Nat} {e f : Int} {u v w : ℚ} {negative : Bool}

theorem two_zpow_pos (e : Int) : (0 : ℚ) < 2 ^ e :=
  zpow_pos (by norm_num) e

theorem two_zpow_le (h : e ≤ f) : (2 : ℚ) ^ e ≤ 2 ^ f :=
  zpow_le_zpow_right₀ (by norm_num) h

theorem two_zpow_add (e f : Int) : (2 : ℚ) ^ (e + f) = 2 ^ e * 2 ^ f :=
  zpow_add₀ (by norm_num) e f

theorem reach_pos (m : Nat) (e : Int) : 0 < reach m e ∧ reach m e ≤ 1 / 2 := by
  unfold reach
  split <;> norm_num

theorem lowest_lt_magnitude (m : Nat) (e : Int) : lowest m e < magnitude m e := by
  have room := (reach_pos m e).1
  exact mul_lt_mul_of_pos_right (by linarith) (two_zpow_pos e)

theorem magnitude_lt_highest (m : Nat) (e : Int) : magnitude m e < highest m e :=
  mul_lt_mul_of_pos_right (by linarith) (two_zpow_pos e)

theorem highest_le (m : Nat) (h : e ≤ f) : highest m e ≤ highest m f :=
  mul_le_mul_of_nonneg_left (two_zpow_le h) (by positivity)

theorem highest_lt (h : m < n) (e : Int) : highest m e < highest n e := by
  have less : (m : ℚ) < n := by exact_mod_cast h
  exact mul_lt_mul_of_pos_right (by linarith) (two_zpow_pos e)

/-- A number rounds to itself. -/
theorem rounds_magnitude (m : Nat) (e : Int) : Rounds (magnitude m e) m e where
  low := (lowest_lt_magnitude m e).le
  high := (magnitude_lt_highest m e).le
  tie := by
    rintro (same | same)
    · exact absurd same (lowest_lt_magnitude m e).ne'
    · exact absurd same (magnitude_lt_highest m e).ne

/-- What lies between two reals that round to a number does so too. -/
theorem Rounds.between (first : Rounds u m e) (last : Rounds w m e) (above : u ≤ v) (below : v ≤ w) :
    Rounds v m e where
  low := first.low.trans above
  high := below.trans last.high
  tie := by
    rintro (same | same)
    · exact first.tie (.inl (le_antisymm (by linarith) first.low))
    · exact last.tie (.inr (le_antisymm last.high (by linarith)))

theorem rounds_of_inside (low : lowest m e < v) (high : v < highest m e) : Rounds v m e where
  low := low.le
  high := high.le
  tie same := (same.elim low.ne' high.ne).elim

theorem Rounds.pos (rounds : Rounds v m e) (positive : 0 < m) : 0 < v := by
  have first : (1 : ℚ) ≤ m := by exact_mod_cast positive
  have room := (reach_pos m e).2
  exact lt_of_lt_of_le (mul_pos (by linarith) (two_zpow_pos e)) rounds.low

/-- Of two numbers, whether one is the smaller. -/
def Before (m : Nat) (e : Int) (n : Nat) (f : Int) : Prop :=
  e < f ∨ e = f ∧ m < n

/-- In units half as large the reals that round to a full significand begin no lower than those end that round to the
largest one. -/
theorem Canonical.wide (large : Canonical n f) (above : leastExponent < f) :
    (2 : ℚ) ^ 53 - 1 / 2 ≤ 2 * (n - reach n f) := by
  have full : 2 ^ 52 ≤ n := large.full.resolve_right above.ne'
  rcases Nat.eq_or_lt_of_le full with same | more
  · have power : reach n f = 1 / 4 := if_pos ⟨same.symm, above⟩
    rw [power, ← same]
    norm_num
  · have more : (2 : ℚ) ^ 52 + 1 ≤ n := by exact_mod_cast more
    have short := (reach_pos n f).2
    linarith

theorem Canonical.apart_exponent (small : Canonical m e) (large : Canonical n f) (less : e < f) :
    highest m e ≤ lowest n f ∧ (highest m e = lowest n f → m % 2 ≠ 0) := by
  have half : (2 : ℚ) ^ f = 2 * 2 ^ (f - 1) := by
    rw [← zpow_one_add₀ (by norm_num), add_sub_cancel]
  have unit : (2 : ℚ) ^ e ≤ 2 ^ (f - 1) := two_zpow_le (by omega)
  have fits : m < 2 ^ 53 := small.fits
  have top : (m : ℚ) + 1 ≤ 2 ^ 53 := by exact_mod_cast fits
  have below : highest m e ≤ ((2 : ℚ) ^ 53 - 1 / 2) * 2 ^ (f - 1) :=
    mul_le_mul (by linarith) unit (two_zpow_pos e).le (by norm_num)
  have above : ((2 : ℚ) ^ 53 - 1 / 2) * 2 ^ (f - 1) ≤ lowest n f := by
    rw [lowest, half, mul_left_comm, ← mul_assoc]
    exact mul_le_mul_of_nonneg_right (large.wide (small.least.trans_lt less)) (two_zpow_pos _).le
  refine ⟨below.trans above, fun same even => ?_⟩
  -- The largest significand is odd, so that an even one stays below the middle.
  have odd : (m : ℚ) + 2 ≤ 2 ^ 53 := by exact_mod_cast (by omega : m + 2 ≤ 2 ^ 53)
  have strict : highest m e < ((2 : ℚ) ^ 53 - 1 / 2) * 2 ^ (f - 1) :=
    lt_of_lt_of_le (mul_lt_mul_of_pos_right (by linarith) (two_zpow_pos e))
      (mul_le_mul_of_nonneg_left unit (by norm_num))
  linarith

theorem apart_significand (less : m < n) (e : Int) :
    highest m e ≤ lowest n e ∧ (highest m e = lowest n e → ¬(m % 2 = 0 ∧ n % 2 = 0)) := by
  have next : (m : ℚ) + 1 ≤ n := by exact_mod_cast less
  have short := (reach_pos n e).2
  refine ⟨mul_le_mul_of_nonneg_right (by linarith) (two_zpow_pos e).le, fun same even => ?_⟩
  have beside : (m : ℚ) + 2 ≤ n := by exact_mod_cast (by omega : m + 2 ≤ n)
  have strict : highest m e < lowest n e := mul_lt_mul_of_pos_right (by linarith) (two_zpow_pos e)
  linarith

/-- The reals that round to a number are below those that round to a larger one. A real in the middle between the two
rounds to the one with the even significand. -/
theorem Canonical.apart (small : Canonical m e) (large : Canonical n f) (before : Before m e n f) :
    highest m e ≤ lowest n f ∧ (highest m e = lowest n f → ¬(m % 2 = 0 ∧ n % 2 = 0)) := by
  rcases before with less | ⟨rfl, less⟩
  · exact (small.apart_exponent large less).imp id fun odd same even => odd same even.1
  · exact apart_significand less e

theorem Canonical.not_both (small : Canonical m e) (large : Canonical n f) (before : Before m e n f)
    (first : Rounds v m e) (second : Rounds v n f) : False := by
  obtain ⟨apart, parity⟩ := small.apart large before
  have high := first.high
  have low := second.low
  have same : v = highest m e := le_antisymm high (apart.trans low)
  have also : v = lowest n f := le_antisymm (high.trans apart) low
  exact parity (same.symm.trans also) ⟨first.tie (.inr same), second.tie (.inl also)⟩

/-- A real rounds to one number only. -/
theorem Rounds.unique (first : Canonical m e) (second : Canonical n f) (one : Rounds v m e) (other : Rounds v n f) :
    m = n ∧ e = f := by
  rcases lt_trichotomy e f with less | rfl | more
  · exact (first.not_both second (.inl less) one other).elim
  · rcases lt_trichotomy m n with less | rfl | more
    · exact (first.not_both second (.inr ⟨rfl, less⟩) one other).elim
    · exact ⟨rfl, rfl⟩
    · exact (second.not_both first (.inr ⟨rfl, more⟩) other one).elim
  · exact (second.not_both first (.inl more) other one).elim

/-- The least numbers are more than half of the least of all apart from zero. -/
theorem Canonical.not_small (canonical : Canonical m e) (rounds : Rounds v m e) :
    magnitude 1 leastExponent / 2 < v := by
  have unit : (2 : ℚ) ^ leastExponent ≤ 2 ^ e := two_zpow_le canonical.least
  have short := (reach_pos m e).2
  have small : magnitude 1 leastExponent / 2 = 1 / 2 * 2 ^ leastExponent := by
    rw [magnitude, Nat.cast_one]
    ring
  rw [small]
  rcases Nat.eq_or_lt_of_le canonical.positive with one | more
  · have first : (1 : ℚ) = m := by exact_mod_cast one
    have low : 1 / 2 * 2 ^ leastExponent ≤ lowest m e :=
      mul_le_mul (by linarith) unit (two_zpow_pos _).le (by linarith)
    refine lt_of_le_of_ne (low.trans rounds.low) fun same => ?_
    have even := rounds.tie (.inl (le_antisymm (by linarith) rounds.low))
    omega
  · have second : (1 : ℚ) + 1 ≤ m := by exact_mod_cast more
    calc 1 / 2 * (2 : ℚ) ^ leastExponent < 1 * 2 ^ leastExponent :=
          mul_lt_mul_of_pos_right (by norm_num) (two_zpow_pos _)
      _ ≤ lowest m e := mul_le_mul (by linarith) unit (two_zpow_pos _).le (by linarith)
      _ ≤ v := rounds.low

theorem Canonical.not_large (canonical : Canonical m e) (rounds : Rounds v m e) : v < overflow := by
  have top : m ≤ 2 ^ width - 1 := Nat.le_pred_of_lt canonical.fits
  have grown : highest m e ≤ highest m greatestExponent := highest_le m canonical.greatest
  rcases Nat.eq_or_lt_of_le top with last | less
  · -- The largest significand is odd: a tie goes up.
    have odd : m % 2 = 1 := by rw [last]; rfl
    have strict : v < highest m e :=
      lt_of_le_of_ne rounds.high fun same => by have := rounds.tie (.inr same); omega
    rw [last] at strict grown
    exact strict.trans_le grown
  · exact (rounds.high.trans grown).trans_lt (highest_lt less greatestExponent)

theorem small_lt_overflow : magnitude 1 leastExponent / 2 < overflow := by
  have one : Canonical 1 leastExponent :=
    ⟨by decide, by decide, le_rfl, by decide, .inr rfl⟩
  exact (one.not_small (rounds_magnitude _ _)).trans (one.not_large (rounds_magnitude _ _))

/-- There is one number only that a real rounds to. -/
theorem Rounded.unique {x y : Binary64} (first : Rounded negative v x) (second : Rounded negative v y) : x = y := by
  have apart := small_lt_overflow
  cases first with
  | zero small =>
      cases second with
      | zero _ => rfl
      | finite canonical rounds => exact absurd small (not_le.mpr (canonical.not_small rounds))
      | infinite large => exact absurd (large.trans small) (not_le.mpr apart)
  | finite canonical rounds =>
      cases second with
      | zero small => exact absurd small (not_le.mpr (canonical.not_small rounds))
      | finite other also =>
          obtain ⟨rfl, rfl⟩ := rounds.unique canonical other also
          rfl
      | infinite large => exact absurd large (not_le.mpr (canonical.not_large rounds))
  | infinite large =>
      cases second with
      | zero small => exact absurd (large.trans small) (not_le.mpr apart)
      | finite canonical rounds => exact absurd large (not_le.mpr (canonical.not_large rounds))
      | infinite _ => rfl

theorem scaleDown_pos (num : Nat) (pos : 0 < den) (e : Int) : 0 < (scaleDown num den e).2 := by
  cases e with
  | ofNat k => exact Nat.mul_pos pos (Nat.two_pow_pos k)
  | negSucc k => exact pos

theorem ratio_scaleDown (num den : Nat) (e : Int) :
    ((scaleDown num den e).1 : ℚ) / (scaleDown num den e).2 = num / den / 2 ^ e := by
  cases e with
  | ofNat k =>
      simp only [scaleDown, Int.ofNat_eq_natCast, zpow_natCast, Nat.cast_mul, Nat.cast_pow, Nat.cast_ofNat]
      rw [div_div]
  | negSucc k =>
      simp only [scaleDown, zpow_negSucc, Nat.cast_mul, Nat.cast_pow, Nat.cast_ofNat]
      rw [div_inv_eq_mul, mul_div_right_comm]

theorem scaleDown_lt_iff (below : 0 < den) :
    (scaleDown num den e).1 < (scaleDown num den e).2 ↔ (num : ℚ) / den < 2 ^ e := by
  have pos : (0 : ℚ) < (scaleDown num den e).2 := by exact_mod_cast scaleDown_pos num below e
  rw [← div_lt_one (two_zpow_pos e), ← ratio_scaleDown, div_lt_one pos, Nat.cast_lt]

/-- The order of a ratio is that of the greatest power of two that it reaches. -/
theorem binaryOrder_spec (above : 0 < num) (below : 0 < den) :
    (2 : ℚ) ^ binaryOrder num den ≤ num / den ∧ (num : ℚ) / den < 2 ^ (binaryOrder num den + 1) := by
  have den_pos : (0 : ℚ) < den := by exact_mod_cast below
  have num_low : (2 : ℚ) ^ num.log2 ≤ num := by exact_mod_cast Nat.log2_self_le above.ne'
  have num_high : (num : ℚ) < 2 ^ (num.log2 + 1) := by exact_mod_cast Nat.lt_log2_self
  have den_low : (2 : ℚ) ^ den.log2 ≤ den := by exact_mod_cast Nat.log2_self_le below.ne'
  have den_high : (den : ℚ) < 2 ^ (den.log2 + 1) := by exact_mod_cast Nat.lt_log2_self
  rw [← zpow_natCast] at num_low num_high den_low den_high
  push_cast at num_high den_high
  have low : (2 : ℚ) ^ ((num.log2 : Int) - den.log2 - 1) ≤ num / den := by
    rw [le_div_iff₀ den_pos]
    calc (2 : ℚ) ^ ((num.log2 : Int) - den.log2 - 1) * den
        ≤ 2 ^ ((num.log2 : Int) - den.log2 - 1) * 2 ^ ((den.log2 : Int) + 1) :=
          mul_le_mul_of_nonneg_left den_high.le (two_zpow_pos _).le
      _ = 2 ^ (num.log2 : Int) := by rw [← two_zpow_add]; congr 1; ring
      _ ≤ num := num_low
  have high : (num : ℚ) / den < 2 ^ ((num.log2 : Int) - den.log2 + 1) := by
    rw [div_lt_iff₀ den_pos]
    calc (num : ℚ) < 2 ^ ((num.log2 : Int) + 1) := num_high
      _ = 2 ^ ((num.log2 : Int) - den.log2 + 1) * 2 ^ (den.log2 : Int) := by
          rw [← two_zpow_add]; congr 1; ring
      _ ≤ 2 ^ ((num.log2 : Int) - den.log2 + 1) * den :=
          mul_le_mul_of_nonneg_left den_low (two_zpow_pos _).le
  simp only [binaryOrder]
  split
  · rename_i short
    rw [sub_add_cancel]
    exact ⟨low, (scaleDown_lt_iff below).mp short⟩
  · rename_i long
    exact ⟨not_lt.mp fun short => long ((scaleDown_lt_iff below).mpr short), high⟩

/-- Whether a whole number is the nearest to a real, of two equally near ones the even. -/
structure Nearest (s : Nat) (q : ℚ) : Prop where
  low : s - 1 / 2 ≤ q
  high : q ≤ s + 1 / 2
  tie : q = s - 1 / 2 ∨ q = s + 1 / 2 → s % 2 = 0

theorem nearest_of_natural {s : Nat} (pos : 0 < den) (low : 2 * s * den ≤ 2 * num + den)
    (high : 2 * num ≤ (2 * s + 1) * den)
    (tie : 2 * s * den = 2 * num + den ∨ 2 * num = (2 * s + 1) * den → s % 2 = 0) : Nearest s (num / den) := by
  have den_pos : (0 : ℚ) < den := by exact_mod_cast pos
  refine ⟨?_, ?_, fun same => tie ?_⟩
  · rw [le_div_iff₀ den_pos]
    have : (2 * s * den : ℚ) ≤ 2 * num + den := by exact_mod_cast low
    linarith
  · rw [div_le_iff₀ den_pos]
    have : (2 * num : ℚ) ≤ (2 * s + 1) * den := by exact_mod_cast high
    linarith
  · rw [div_eq_iff den_pos.ne', div_eq_iff den_pos.ne'] at same
    refine same.imp (fun same => ?_) (fun same => ?_)
    · have : (2 * s * den : ℚ) = 2 * num + den := by linarith
      exact_mod_cast this
    · have : (2 * num : ℚ) = (2 * s + 1) * den := by linarith
      exact_mod_cast this

theorem nearest_roundDiv (num : Nat) (pos : 0 < den) : Nearest (roundDiv num den) (num / den) := by
  have split : num = den * (num / den) + num % den := (Nat.div_add_mod num den).symm
  have rest : num % den < den := Nat.mod_lt num pos
  unfold roundDiv
  simp only []
  generalize num / den = whole at split ⊢
  generalize num % den = left at split rest ⊢
  have double : 2 * num = 2 * (whole * den) + 2 * left := by rw [split]; ring
  have expand : (2 * (whole + 1) + 1) * den = 2 * (whole * den) + 3 * den := by ring
  have widen : (2 * whole + 1) * den = 2 * (whole * den) + den := by ring
  have next : 2 * (whole + 1) * den = 2 * (whole * den) + 2 * den := by ring
  have here : 2 * whole * den = 2 * (whole * den) := by ring
  split_ifs with below above even
  · exact nearest_of_natural pos (by omega) (by omega) (by omega)
  · exact nearest_of_natural pos (by omega) (by omega) (by omega)
  · exact nearest_of_natural pos (by omega) (by omega) (by omega)
  · exact nearest_of_natural pos (by omega) (by omega) (by omega)

theorem Nearest.le (near : Nearest m v) (less : v < n) : m ≤ n := by
  have low := near.low
  have : (m : ℚ) < (n + 1 : Nat) := by push_cast; linarith
  exact Nat.le_of_lt_succ (by exact_mod_cast this)

theorem Nearest.ge (near : Nearest m v) (more : n ≤ v) : n ≤ m := by
  have high := near.high
  have : (n : ℚ) < (m + 1 : Nat) := by push_cast; linarith
  exact Nat.le_of_lt_succ (by exact_mod_cast this)

/-- A number whose significand is the nearest in its unit is rounded to. -/
theorem Nearest.rounds (near : Nearest m (v / 2 ^ e)) (power : 2 ^ (width - 1) ≤ v / 2 ^ e ∨ e = leastExponent) :
    Rounds v m e := by
  have unit := two_zpow_pos e
  have wide : reach m e = 1 / 2 ∨ reach m e = 1 / 4 ∧ m = 2 ^ (width - 1) ∧ leastExponent < e := by
    unfold reach
    split
    · rename_i holds
      exact .inr ⟨rfl, holds⟩
    · exact .inl rfl
  have low : (m : ℚ) - reach m e ≤ v / 2 ^ e := by
    rcases wide with half | ⟨quarter, rfl, least⟩
    · rw [half]
      exact near.low
    · have reached := power.resolve_right least.ne'
      rw [quarter]
      push_cast
      linarith
  refine ⟨(le_div_iff₀ unit).mp low, (div_le_iff₀ unit).mp near.high, ?_⟩
  rintro (same | same)
  · have tie := (div_eq_iff unit.ne').mpr same
    rcases wide with half | ⟨-, rfl, -⟩
    · exact near.tie (.inl (by rw [tie, half]))
    · rfl
  · exact near.tie (.inr ((div_eq_iff unit.ne').mpr same))

/-- What is made of the significand that is nearest in a unit. -/
def ofNearest (negative : Bool) (m : Nat) (e : Int) : Binary64 :=
  if m = 2 ^ width then
    if greatestExponent < e + 1 then .infinite negative else .finite negative (2 ^ (width - 1)) (e + 1)
  else if greatestExponent < e then .infinite negative
  else .finite negative m e

theorem nearest_eq (above : 0 < num) :
    let e := max (binaryOrder num den - 52) leastExponent
    nearest negative num den =
      ofNearest negative (roundDiv (scaleDown num den e).1 (scaleDown num den e).2) e := by
  intro e
  unfold nearest ofNearest
  rw [if_neg above.ne']
  simp only [e]
  split <;> rfl

theorem rounded_ofNearest (near : Nearest m (v / 2 ^ e)) (least : leastExponent ≤ e) (high : v / 2 ^ e < 2 ^ width)
    (power : 2 ^ (width - 1) ≤ v / 2 ^ e ∨ e = leastExponent) : Rounded negative v (ofNearest negative m e) := by
  have unit := two_zpow_pos e
  have top : m ≤ 2 ^ width := near.le (by exact_mod_cast high)
  have double : (2 : ℚ) ^ (e + 1) = 2 * 2 ^ e := by rw [two_zpow_add, zpow_one, mul_comm]
  unfold ofNearest
  split_ifs with carried beyond beyond
  · -- The significand has become too wide, and the number too large.
    have large : highest (2 ^ width - 1) e ≤ v := by
      rw [highest, ← le_div_iff₀ unit]
      refine le_trans (le_of_eq ?_) near.low
      rw [carried]
      norm_num [width]
    exact .infinite ((highest_le _ (by omega)).trans large)
  · have canonical : Canonical (2 ^ (width - 1)) (e + 1) :=
      ⟨by decide, by decide, by omega, by omega, .inl le_rfl⟩
    have reached : reach (2 ^ (width - 1)) (e + 1) = 1 / 4 := if_pos ⟨rfl, by omega⟩
    refine .finite canonical ⟨?_, ?_, fun _ => rfl⟩
    · rw [lowest, reached, double, ← mul_assoc, ← le_div_iff₀ unit]
      refine le_trans (le_of_eq ?_) near.low
      rw [carried]
      norm_num [width]
    · rw [highest, double, ← mul_assoc, ← div_le_iff₀ unit]
      refine high.le.trans ?_
      norm_num [width]
  · have wide := power.resolve_right (by rintro rfl; exact absurd beyond (by decide))
    have large : highest (2 ^ width - 1) (e - 1) ≤ v := by
      rw [highest, sub_eq_add_neg, two_zpow_add, mul_comm (2 ^ e), ← mul_assoc, ← le_div_iff₀ unit]
      refine le_trans ?_ wide
      norm_num [width]
    exact .infinite ((highest_le _ (by omega)).trans large)
  · rcases Nat.eq_zero_or_pos m with rfl | positive
    · have short := near.high
      rw [Nat.cast_zero, zero_add] at short
      obtain rfl : e = leastExponent := power.resolve_left (fun wide => by
        have : (2 : ℚ) ^ (width - 1) ≤ 1 / 2 := wide.trans short
        norm_num [width] at this)
      refine .zero ?_
      rw [magnitude, Nat.cast_one, one_mul, div_eq_inv_mul, ← one_div, ← div_le_iff₀ unit]
      exact short
    · have full : 2 ^ (width - 1) ≤ m ∨ e = leastExponent :=
        power.imp_left fun wide => near.ge (by exact_mod_cast wide)
      exact .finite ⟨positive, lt_of_le_of_ne top carried, least, not_lt.mp beyond, full⟩ (near.rounds power)

/-- What is taken for the number nearest to a ratio is the one that it rounds to. -/
theorem rounded_nearest (negative : Bool) (num : Nat) (below : 0 < den) :
    Rounded negative (num / den) (nearest negative num den) := by
  rcases Nat.eq_zero_or_pos num with rfl | above
  · rw [Nat.cast_zero, zero_div]
    exact .zero (by rw [magnitude]; positivity)
  · obtain ⟨low, high⟩ := binaryOrder_spec above below
    rw [nearest_eq above]
    generalize same : max (binaryOrder num den - 52) leastExponent = e
    have unit := two_zpow_pos e
    have near := nearest_roundDiv (scaleDown num den e).1 (scaleDown_pos num below e)
    rw [ratio_scaleDown] at near
    refine rounded_ofNearest near (by omega) ?_ ?_
    · rw [div_lt_iff₀ unit, ← zpow_natCast, ← two_zpow_add]
      exact high.trans_le (two_zpow_le (by simp only [width]; omega))
    · rcases le_total (binaryOrder num den - 52) leastExponent with small | large
      · exact .inr (by omega)
      · left
        rw [le_div_iff₀ unit, ← zpow_natCast, ← two_zpow_add]
        exact (two_zpow_le (by simp only [width]; omega)).trans low

end Dossier.Number.Binary64
