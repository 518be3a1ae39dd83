/-
# Acquisition.Text.CodeRange — classes of characters as ranges of codes

A class of characters is kept as the ranges its codes form, in ascending order.
-/

namespace Acquisition.Text

set_option autoImplicit false

/-- The codes from a first to a last one, both counted in. -/
structure CodeRange where
  first : Nat
  last : Nat
deriving DecidableEq, Repr

namespace CodeRange

/-- The codes in a range. -/
instance : Membership Nat CodeRange where
  mem range code := range.first ≤ code ∧ code ≤ range.last

instance (code : Nat) (range : CodeRange) : Decidable (code ∈ range) :=
  inferInstanceAs (Decidable (_ ∧ _))

/-- Whether a code is in one of the ranges. -/
def covers (ranges : List CodeRange) (code : Nat) : Bool :=
  ranges.any fun range => code ∈ range

end CodeRange

end Acquisition.Text
