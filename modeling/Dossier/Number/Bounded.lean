/-! # Numbers within bounds

A number that comes with the proof that it lies between two bounds, so that no later definition has to check it
again. A literal past a bound stands for that bound, and a sum ends at the greater one.
-/

namespace Dossier.Number

/-- A natural number between two bounds. -/
@[ext]
structure Bounded (least most : Nat) where
  value : Nat
  ge : least ≤ value
  le : value ≤ most
  deriving Repr, DecidableEq

namespace Bounded

variable {least most : Nat}

/-- Bounds with a number between them. Each literal has this with it, so it is data: of a proof, a definition with a
literal would keep a copy of its own. -/
class Proper (least most : Nat) : Type where
  le : least ≤ most

instance : Proper 0 most :=
  ⟨Nat.zero_le most⟩

/-- The number between the bounds that is next to another one. -/
def clip [bounds : Proper least most] (n : Nat) : Bounded least most where
  value := max least (min n most)
  ge := Nat.le_max_left ..
  le := Nat.max_le.mpr ⟨bounds.le, Nat.min_le_right ..⟩

@[simp]
theorem value_clip [Proper least most] (n : Nat) :
    (clip n : Bounded least most).value = max least (min n most) :=
  rfl

instance [Proper least most] (n : Nat) : OfNat (Bounded least most) n :=
  ⟨clip n⟩

@[simp]
theorem value_ofNat [Proper least most] (n : Nat) :
    (no_index (OfNat.ofNat n) : Bounded least most).value = max least (min n most) :=
  rfl

instance : HAdd (Bounded least most) Nat (Bounded least most) where
  hAdd a n :=
    { value := min (a.value + n) most
      ge := Nat.le_min.mpr ⟨Nat.le_trans a.ge (Nat.le_add_right ..), Nat.le_trans a.ge a.le⟩
      le := Nat.min_le_right .. }

end Bounded

end Dossier.Number
