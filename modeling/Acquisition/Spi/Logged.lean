/-
# Acquisition.Spi.Logged — devices that write down what they are asked

A `Logged` device is any device together with a record of the transactions it was asked for, the
failed ones included, and of what it said to each. Keeping the record changes no answer.
-/

import Acquisition.Spi.Device

namespace Acquisition.Spi

set_option autoImplicit false

/-- One transaction: what was asked, whether it failed, and the words received. -/
structure Transaction where
  operations : List (Operation UInt16)
  fault : Option Fault
  received : List (List UInt16)
  deriving DecidableEq

/-- A device with a record of its transactions, oldest first. -/
structure Logged (τ : Type) where
  device : τ
  log : List Transaction := []

namespace Logged

variable {τ : Type}

instance [Device τ UInt16] : Device (Logged τ) UInt16 where
  transact logged operations :=
    (Device.transact logged.device operations).map fun reply =>
      { reply with
        device := ⟨reply.device, logged.log ++ [⟨operations, reply.fault, reply.received⟩]⟩ }

instance [WordSize τ] : WordSize (Logged τ) where
  setWordSize logged bits :=
    let done := WordSize.setWordSize logged.device bits
    (done.1, { logged with device := done.2 })

end Logged

end Acquisition.Spi
