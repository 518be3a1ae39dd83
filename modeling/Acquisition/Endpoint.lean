/-
# Acquisition.Endpoint — devices of different kinds in one session

All converters of a session sit behind devices of one type. An `Endpoint` is a
scripted word device, a link to a scripted byte device, or a simulated part, so one
session can hold converters behind each.
-/

import Acquisition.Converter.Simulated
import Acquisition.Spi.Script
import Acquisition.Spi.WordLink

namespace Acquisition

open Acquisition.Converter (SimulatedPart)
open Acquisition.Spi (Script WordLink Operation Reply Fault)

set_option autoImplicit false

/-- A device of one of three kinds. -/
inductive Endpoint where
  | script (device : Script UInt16)
  | link (device : WordLink (Script UInt8))
  | simulated (device : SimulatedPart)

namespace Endpoint

/-- A reply of one kind of device as the reply of an endpoint. -/
def lift {σ : Type} (wrap : σ → Endpoint) (reply : Reply UInt16 σ) : Reply UInt16 Endpoint :=
  ⟨reply.fault, reply.received, wrap reply.device⟩

/-- Carries out a transaction on whichever device there is. -/
def transact (endpoint : Endpoint) (operations : List (Operation UInt16)) :
    Option (Reply UInt16 Endpoint) :=
  match endpoint with
  | .script device => (Spi.Device.transact device operations).map (lift .script)
  | .link device => (Spi.Device.transact device operations).map (lift .link)
  | .simulated device => (Spi.Device.transact device operations).map (lift .simulated)

/-- Sets the word size of whichever device there is. -/
def setWordSize (endpoint : Endpoint) (bits : Nat) : Option Fault × Endpoint :=
  match endpoint with
  | .script device =>
      let done := Spi.WordSize.setWordSize device bits
      (done.1, .script done.2)
  | .link device =>
      let done := Spi.WordSize.setWordSize device bits
      (done.1, .link done.2)
  | .simulated device =>
      let done := Spi.WordSize.setWordSize device bits
      (done.1, .simulated done.2)

instance : Spi.Device Endpoint UInt16 where
  transact := transact

instance : Spi.WordSize Endpoint where
  setWordSize := setWordSize

/-- Tells a scripted device to fail from now on, or to stop failing. -/
def setFailing (endpoint : Endpoint) (failing : Bool) : Endpoint :=
  match endpoint with
  | .script device => .script { device with failing }
  | .link device => .link { device with inner := { device.inner with failing } }
  | .simulated device => .simulated device

/-- Sets the voltage at an input of a simulated part. -/
def setVoltage (endpoint : Endpoint) (input : Nat) (microvolts : Int) : Endpoint :=
  match endpoint with
  | .simulated device => .simulated (device.setVoltage input microvolts)
  | other => other

/-- The voltage at an input of a simulated part. -/
def voltage (endpoint : Endpoint) (input : Nat) : Int :=
  match endpoint with
  | .simulated device => device.voltage input
  | _ => 0

end Endpoint

end Acquisition
