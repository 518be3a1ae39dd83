/-
# Acquisition.Spi.Fault — why a transaction on the bus fails

A bus tells five kinds of failure apart and nothing more. `name` is the short
word for a kind, `message` the sentence for a reader; `ofName?` reads the short
word back (`ofName?_name`), so the two never drift apart.
-/

namespace Acquisition.Spi

set_option autoImplicit false

/-- The kinds of failure a bus reports. -/
inductive Fault where
  | overrun
  | modeFault
  | frameFormat
  | chipSelect
  | other
  deriving DecidableEq, Inhabited

namespace Fault

/-- Every kind, once. -/
def all : List Fault :=
  [.overrun, .modeFault, .frameFormat, .chipSelect, .other]

/-- The short word for a kind of failure. -/
def name : Fault → String
  | .overrun => "Overrun"
  | .modeFault => "ModeFault"
  | .frameFormat => "FrameFormat"
  | .chipSelect => "ChipSelectFault"
  | .other => "Other"

/-- The sentence for a kind of failure. -/
def message : Fault → String
  | .overrun => "The peripheral receive buffer was overrun"
  | .modeFault =>
      "Multiple devices on the SPI bus are trying to drive the slave select pin"
  | .frameFormat => "Received data does not conform to the peripheral configuration"
  | .chipSelect => "An error occurred while asserting or deasserting the Chip Select pin"
  | .other => "A different error occurred. The original error may contain more information"

/-- Reads a short word back. -/
def ofName? (word : String) : Option Fault :=
  all.find? fun fault => fault.name == word

theorem mem_all (fault : Fault) : fault ∈ all := by
  cases fault <;> decide

/-- **Short words are read back.** -/
theorem ofName?_name (fault : Fault) : ofName? fault.name = some fault := by
  cases fault <;> decide

end Fault

end Acquisition.Spi
