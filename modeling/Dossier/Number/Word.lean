/-! # Words

The numbers that a machine word holds. Powers of natural numbers are those of the core library in all modules,
whatever other powers are in scope.
-/

namespace Dossier.Number

instance (priority := 2000) instPow : Pow Nat Nat := instPowNat

/-- Whether an integer fits a word of 64 bits with a sign. -/
def fitsWord (n : Int) : Bool :=
  -0x8000000000000000 ≤ n && n < 0x8000000000000000

end Dossier.Number
