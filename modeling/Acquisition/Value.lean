/-
# Acquisition.Value — what reading an attribute gives

A `Value` is a whole number or a fraction. A whole number is written as it is, a
fraction with nine places cut off towards zero; a fraction over zero is written as
`0`, while its double is what dividing by zero gives.
-/

import Acquisition.Decimal

namespace Acquisition

set_option autoImplicit false

/-- A whole number or a fraction. -/
inductive Value where
  | whole (number : Int)
  | fraction (numerator denominator : Int)
  deriving DecidableEq

namespace Value

/-- Decimal places of a fraction. -/
def places : Nat := 9

/-- The text of a value. -/
def text : Value → String
  | .whole number => toString number
  | .fraction numerator denominator =>
      if denominator = 0 then "0" else Decimal.quotient places numerator denominator

/-- The double nearest to a value. -/
def toFloat : Value → Float
  | .whole number => Float.ofInt number
  | .fraction numerator denominator => Float.ofInt numerator / Float.ofInt denominator

end Value

end Acquisition
