/-
Powers and sums of whole numbers. Which instances `^` and `List.sum` stand for hangs on what else a module
imports; the instances here come before all others, so that a definition means the same everywhere.
-/

namespace Placeholder

@[default_instance 20000]
instance powInt : Pow Int Nat := @instPowNat Int Int.instNatPow

@[default_instance 20001]
instance powNat : Pow Nat Nat := @instPowNat Nat instNatPowNat

instance zeroNat : Zero Nat := @Zero.ofOfNat0 Nat (instOfNatNat 0)

end Placeholder
