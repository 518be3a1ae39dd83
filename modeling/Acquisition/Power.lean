/-
# Acquisition.Power — powers of whole numbers

Powers of natural numbers and of integers are those of the core library, in every module and
whatever algebra is in scope beside it: a definition with a power in it is the same term
wherever it is read.
-/

namespace Acquisition

set_option autoImplicit false

/-- A power with a natural exponent is the repeated product. -/
scoped instance (priority := 2000) naturalPower {α : Type} [NatPow α] : Pow α Nat :=
  instPowNat

end Acquisition
