import Dossier.Number.Shortest
import Dossier.Proofs.Number.Decimal
import Dossier.Proofs.Number.Rounding

/-! # Shortest decimals

Of the decimals that round to a number one is the shortest: no other has fewer digits, and none with as few is nearer
to the number. Main statement: `IsShortest.unique`.
-/

namespace Dossier.Number.Decimal

open Binary64

/-- The value of the digits of a whole number with a power of ten. -/
def value (c : Nat) (k : Int) : ℚ :=
  c * 10 ^ k

/-- How far a decimal is from a number. -/
def distance (c : Nat) (k : Int) (m : Nat) (e : Int) : ℚ :=
  |value c k - magnitude m e|

/-- Whether a number has at most as many digits as another. -/
def NoLonger (c d : Nat) : Prop :=
  ∀ n, d < 10 ^ n → c < 10 ^ n

/-- Whether a decimal is the shortest of those that round to a number, the nearest of the shortest, and even among two
that are equally near. It has no superfluous zeros. -/
structure IsShortest (m : Nat) (e : Int) (c : Nat) (k : Int) : Prop where
  reduced : c % 10 ≠ 0
  rounds : Rounds (value c k) m e
  fewest : ∀ d l, Rounds (value d l) m e → NoLonger c d
  nearest : ∀ d l, Rounds (value d l) m e → NoLonger d c → distance c k m e ≤ distance d l m e
  tie : ∀ d l, Rounds (value d l) m e → NoLonger d c → k ≤ l → distance c k m e = distance d l m e →
    value d l = value c k ∨ c % 2 = 0

/-- The decimal with the digits of a whole number and a power of ten. -/
def of (c : Nat) (k : Int) : Decimal where
  digits := decimalDigits c
  order := k + (decimalDigits c).length - 1

variable {m c d : Nat} {e k l : Int}

theorem ten_zpow_pos (k : Int) : (0 : ℚ) < 10 ^ k :=
  zpow_pos (by norm_num) k

theorem ten_zpow_add (k l : Int) : (10 : ℚ) ^ (k + l) = 10 ^ k * 10 ^ l :=
  zpow_add₀ (by norm_num) k l

theorem value_le (h : c ≤ d) (k : Int) : value c k ≤ value d k := by
  have le : (c : ℚ) ≤ d := by exact_mod_cast h
  exact mul_le_mul_of_nonneg_right le (ten_zpow_pos k).le

theorem value_lt_iff : value c k < value d k ↔ c < d := by
  rw [value, value, mul_lt_mul_iff_left₀ (ten_zpow_pos k), Nat.cast_lt]

theorem value_mul_pow (c n : Nat) (k : Int) : value (c * 10 ^ n) k = value c (k + n) := by
  rw [value, value, ten_zpow_add, zpow_natCast]
  push_cast
  ring

theorem value_ten_pow (n : Nat) (k : Int) : value (10 ^ n) k = 10 ^ (k + n) := by
  have shifted := value_mul_pow 1 n k
  rw [Nat.one_mul] at shifted
  rw [shifted, value, Nat.cast_one, one_mul]

/-- On a finer grid a decimal has more digits. -/
theorem exists_value_eq (c : Nat) (h : k ≤ l) : ∃ n : Nat, l = k + n ∧ value c l = value (c * 10 ^ n) k := by
  obtain ⟨n, rfl⟩ := Int.le.dest h
  exact ⟨n, rfl, (value_mul_pow c n k).symm⟩

/-- Without superfluous zeros decimals are equal if their values are. -/
theorem eq_of_value_eq (first : c % 10 ≠ 0) (second : d % 10 ≠ 0) (same : value c k = value d l) :
    c = d ∧ k = l := by
  have one {c d : Nat} {k l : Int} (first : c % 10 ≠ 0) (same : value c k = value d l) (le : k ≤ l) :
      c = d ∧ k = l := by
    obtain ⟨n, rfl, finer⟩ := exists_value_eq d le
    rw [finer, value, value, mul_left_inj' (ten_zpow_pos k).ne', Nat.cast_inj] at same
    cases n with
    | zero => exact ⟨by rw [same, Nat.pow_zero, Nat.mul_one], by simp⟩
    | succ n => exact absurd (by rw [same, Nat.pow_succ, ← Nat.mul_assoc, Nat.mul_mod_left]) first
  rcases le_total k l with le | le
  · exact one first same le
  · exact (one second same.symm le).imp Eq.symm Eq.symm

theorem value_pos (h : Rounds (value c k) m e) (positive : 0 < m) : 0 < c := by
  rcases Nat.eq_zero_or_pos c with rfl | pos
  · have := h.pos positive
    rw [value, Nat.cast_zero, zero_mul] at this
    exact absurd this (lt_irrefl 0)
  · exact pos

/-- A number lies in the middle between two decimals that are equally near. -/
theorem between_of_distance_eq (same : distance c k m e = distance d l m e) (less : value c k < value d l) :
    value c k < magnitude m e ∧ magnitude m e < value d l ∧
      magnitude m e - value c k = value d l - magnitude m e := by
  unfold distance at same
  rcases abs_cases (value c k - magnitude m e) with ⟨one, _⟩ | ⟨one, _⟩ <;>
    rcases abs_cases (value d l - magnitude m e) with ⟨two, _⟩ | ⟨two, _⟩ <;>
    refine ⟨?_, ?_, ?_⟩ <;> linarith

/-- Between two decimals that are equally near all others are nearer. -/
theorem distance_lt_of_between {a : Nat} {j : Int} (same : distance c k m e = distance d l m e)
    (above : value c k < value a j) (below : value a j < value d l) : distance a j m e < distance c k m e := by
  obtain ⟨low, high, middle⟩ := between_of_distance_eq same (above.trans below)
  have before : distance c k m e = magnitude m e - value c k := by
    rw [distance, abs_of_neg (by linarith)]
    ring
  rw [before, distance, abs_lt]
  constructor <;> linarith

theorem noLonger_of_le (h : c ≤ d) : NoLonger c d :=
  fun _ less => h.trans_lt less

theorem noLonger_succ (even : c % 2 = 0) (pos : 0 < c) : NoLonger (c + 1) c := by
  intro n less
  cases n with
  | zero => omega
  | succ n =>
      rw [Nat.pow_succ] at less ⊢
      omega

/-- No decimal with as few digits as a shortest one lies between two that are as near as this one. -/
theorem IsShortest.not_between {a b x : Nat} {i j y : Int} (shortest : IsShortest m e c k)
    (lower : Rounds (value a i) m e) (upper : Rounds (value b j) m e) (one : distance a i m e = distance c k m e)
    (two : distance b j m e = distance c k m e) (above : value a i < value x y) (below : value x y < value b j)
    (few : NoLonger x c) : False := by
  have rounds := lower.between upper above.le below.le
  have nearer := distance_lt_of_between (one.trans two.symm) above below
  have near := shortest.nearest x y rounds few
  rw [one] at nearer
  exact absurd nearer (not_lt.mpr near)

/-- Of two decimals with as many digits the one on the finer grid is the smaller. -/
theorem value_lt_of_finer (few : NoLonger c d) (pos : 0 < d) (finer : k < l) : value c k < value d l := by
  obtain ⟨n, known⟩ : ∃ n, (decimalDigits d).length = n := ⟨_, rfl⟩
  have reach : 10 ^ (n - 1) ≤ d := known ▸ pow_length_le pos
  have room : d < 10 ^ n := known ▸ lt_pow_length d
  have some : 0 < n := known ▸ length_decimalDigits_pos d
  calc value c k < value (10 ^ n) k := value_lt_iff.mpr (few n room)
    _ = 10 ^ (k + n) := value_ten_pow n k
    _ ≤ 10 ^ (l + (n - 1 : Nat)) := zpow_le_zpow_right₀ (by norm_num) (by omega)
    _ = value (10 ^ (n - 1)) l := (value_ten_pow (n - 1) l).symm
    _ ≤ value d l := value_le reach l

theorem IsShortest.value_eq (first : IsShortest m e c k) (second : IsShortest m e d l) (positive : 0 < m)
    (le : k ≤ l) : value d l = value c k := by
  have few := first.fewest d l second.rounds
  have also := second.fewest c k first.rounds
  have same : distance c k m e = distance d l m e :=
    le_antisymm (first.nearest d l second.rounds also) (second.nearest c k first.rounds few)
  have pos := value_pos first.rounds positive
  have next (c : Nat) (k : Int) : value c k < value (c + 1) k := value_lt_iff.mpr (Nat.lt_succ_self c)
  rcases first.tie d l second.rounds also le same with equal | even
  · exact equal
  by_contra differ
  rcases lt_or_eq_of_le le with finer | rfl
  · have below : value (c + 1) k < value d l :=
      value_lt_of_finer (fun n less => noLonger_succ even pos n (few n less)) (value_pos second.rounds positive) finer
    exact first.not_between first.rounds second.rounds rfl same.symm (next c k) below (noLonger_succ even pos)
  · have even' := (second.tie c k first.rounds few le_rfl same.symm).resolve_left (Ne.symm differ)
    have apart : c ≠ d := fun equal => differ (by rw [equal])
    rcases Nat.lt_or_gt_of_ne apart with less | more
    · exact first.not_between first.rounds second.rounds rfl same.symm (next c k)
        (value_lt_iff.mpr (by omega)) (noLonger_succ even pos)
    · exact first.not_between second.rounds first.rounds same.symm rfl (next d k)
        (value_lt_iff.mpr (by omega)) (noLonger_of_le more)

/-- There is one shortest decimal of a number only. -/
theorem IsShortest.unique (first : IsShortest m e c k) (second : IsShortest m e d l) (positive : 0 < m) :
    c = d ∧ k = l := by
  refine eq_of_value_eq first.reduced second.reduced ?_
  rcases le_total k l with le | le
  · exact (first.value_eq second positive le).symm
  · exact second.value_eq first positive le

end Dossier.Number.Decimal
