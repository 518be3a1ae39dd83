/-
# Acquisition.Supply — voltage supplies

A `Regulator` gives a voltage and counts how often it has been switched on;
switching it off more often than on is refused. `Supplies` keeps regulators under
numbers and lets names stand for them: a name can be given to another regulator, or
taken away, at any time. Whoever asks for a name that stands for nothing is told to
come back later.
-/

import Acquisition.Error
import Acquisition.Log
import Acquisition.Table

namespace Acquisition

set_option autoImplicit false

/-- The number of a regulator. -/
structure RegulatorId where
  index : Nat
  deriving DecidableEq

/-- A voltage supply. -/
structure Regulator where
  microvolts : Int
  /-- How often it has been switched on and not off again. -/
  useCount : Nat := 0
  /-- Why its voltage cannot be read. -/
  fault : Option Error := none
  /-- Why it cannot be switched on. -/
  refusal : Option Error := none
  deriving DecidableEq

namespace Regulator

/-- The voltage, in microvolts. -/
def voltage (regulator : Regulator) : Except Error Int :=
  match regulator.fault with
  | some error => .error error
  | none => .ok regulator.microvolts

/-- Whether it is switched on. -/
def isEnabled (regulator : Regulator) : Bool :=
  regulator.useCount != 0

/-- Switches it on once more. -/
def enable (regulator : Regulator) : Except Error Unit × Regulator :=
  match regulator.refusal with
  | some error => (.error error, regulator)
  | none => (.ok (), { regulator with useCount := regulator.useCount + 1 })

/-- Switches it off once. -/
def disable (regulator : Regulator) : Except Error Unit × Regulator × List LogLine :=
  match regulator.useCount with
  | 0 => (.error .invalid, regulator, [⟨.warn, "unbalanced regulator disable"⟩])
  | count + 1 => (.ok (), { regulator with useCount := count }, [])

end Regulator

/-- Regulators, and the names that stand for them. -/
structure Supplies where
  regulators : Table Regulator := {}
  named : List (String × RegulatorId) := []

namespace Supplies

/-- Adds a regulator that no name stands for yet. -/
def create (supplies : Supplies) (regulator : Regulator) : RegulatorId × Supplies :=
  (⟨supplies.regulators.size⟩,
    { supplies with regulators := supplies.regulators.push regulator })

/-- The regulator under a number. -/
def regulator? (supplies : Supplies) (id : RegulatorId) : Option Regulator :=
  supplies.regulators.get? id.index

/-- Changes the regulator under a number. -/
def modify (supplies : Supplies) (id : RegulatorId) (change : Regulator → Regulator) : Supplies :=
  { supplies with regulators := supplies.regulators.modify id.index change }

/-- What a name stands for. -/
def find? (supplies : Supplies) (name : String) : Option RegulatorId :=
  supplies.named.lookup name

/-- Takes a name away and says what it stood for. -/
def remove (supplies : Supplies) (name : String) : Option RegulatorId × Supplies :=
  (supplies.find? name,
    { supplies with named := supplies.named.filter fun entry => entry.1 != name })

/-- Lets a name stand for a regulator, whatever it stood for before. -/
def add (supplies : Supplies) (name : String) (id : RegulatorId) : Supplies :=
  let rest := (supplies.remove name).2
  { rest with named := (name, id) :: rest.named }

/-- The regulator a name stands for. -/
def get (supplies : Supplies) (name : String) : Except Error RegulatorId :=
  match supplies.find? name with
  | some id => .ok id
  | none => .error .probeDefer

/-- The voltage of the regulator under a number. -/
def voltage (supplies : Supplies) (id : RegulatorId) : Except Error Int :=
  match supplies.regulator? id with
  | some regulator => regulator.voltage
  | none => .error .noDevice

/-- Switches a regulator on once more. -/
def enable (supplies : Supplies) (id : RegulatorId) : Except Error Unit × Supplies :=
  match supplies.regulator? id with
  | none => (.error .noDevice, supplies)
  | some regulator =>
      let done := regulator.enable
      (done.1, supplies.modify id fun _ => done.2)

/-- Switches a regulator off once. -/
def disable (supplies : Supplies) (id : RegulatorId) :
    Except Error Unit × Supplies × List LogLine :=
  match supplies.regulator? id with
  | none => (.error .noDevice, supplies, [])
  | some regulator =>
      let done := regulator.disable
      (done.1, supplies.modify id fun _ => done.2.1, done.2.2)

theorem find?_add_self (supplies : Supplies) (name : String) (id : RegulatorId) :
    (supplies.add name id).find? name = some id := by
  simp [add, find?]

end Supplies

end Acquisition
