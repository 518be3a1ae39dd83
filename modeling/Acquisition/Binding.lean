/-
# Acquisition.Binding — converters as devices of a session

`probe` makes a device of a session out of a converter behind an SPI device: it sets
the word size, finds the part by its identifier, switches on the supply the range is
derived from, registers a device with one channel per input and one for the time, and
makes a timer trigger named after the bus. Whatever was done before a failure is
undone, and the SPI device is handed back. `remove` undoes a binding in reverse
order.

The device reads an input with a single-input exchange, and its handler answers each
edge with one scan. A scan that fails is reported and pushes nothing; the edge is
done either way.
-/

import Acquisition.Converter.Core
import Acquisition.Session.Edge
import Acquisition.Session.Registry
import Acquisition.Session.Software
import Acquisition.Text

namespace Acquisition

open Acquisition.Converter (Part Input InputSet Problem)

set_option autoImplicit false

/-- The supply the range is derived from. -/
def referenceSupply : String := "vref"

/-- The name under which converters are bound. -/
def driverName : String := "ti-ads79xx"

/-- The word size of a converter, in bits. -/
def wordBits : Nat := 16

/-- The refusal that stands for a problem of a converter. -/
def refusalOf : Problem → Error
  | .spi fault => .transport fault
  | .otherInput _ _ => .again
  | .noInput _ => .invalid

/-- The voltage channel of an input. -/
def channelOf (input : Input) : Channel :=
  .voltage input.index (input.datasheetName?.getD "") input.resolution input.storage input.shift

/-- One channel per input, then the time. -/
def channelsOf (part : Part) : List Channel :=
  part.profile.inputList.map channelOf ++ [.timestamp part.inputs]

/-- A converter, the supply of its reference, and the name of its bus. -/
structure Frontend (σ : Type) where
  converter : Converter σ
  supply : RegulatorId
  bus : String

namespace Frontend

variable {σ : Type}

/-- The inputs of a mask that the part has; the rest of the mask is not the part's. -/
def inputsOf (part : Part) (mask : ScanMask) : InputSet :=
  .ofList ((mask.toList.filter fun index => index < part.inputs).map UInt8.ofNat)

/-- Prepares the scan of the inputs of a mask. -/
def program (mask : ScanMask) (frontend : Frontend σ) : Except Error Unit × Frontend σ :=
  let done := frontend.converter.program (inputsOf frontend.converter.part mask)
  (done.1.mapError refusalOf, { frontend with converter := done.2 })

section Traffic

variable [Spi.Device σ UInt16]

/-- Reads the conversion of a channel, or the size of one step in millivolts. -/
def read (supplies : Supplies) (channel : Channel) (asked : Attribute) (frontend : Frontend σ) :
    Option (Except Error Value × Frontend σ) :=
  match asked with
  | .raw =>
      (frontend.converter.single (UInt8.ofNat channel.address)).map fun (result, converter) =>
        (match result with
          | .ok code => .ok (.whole (code.toNat / 2 ^ channel.format.shift : Nat))
          | .error problem => .error (refusalOf problem),
          { frontend with converter })
  | .scale =>
      some
        (match supplies.voltage frontend.supply with
          | .ok reference =>
              .ok (.fraction (frontend.converter.fullScale reference)
                (2 ^ channel.format.realBits - 1))
          | .error error => .error error,
          frontend)
  | _ => some (.error .notSupported, frontend)

/-- Scans the prepared inputs once; what was scanned is to be pushed. -/
def handle (time : Int64) (frontend : Frontend σ) :
    Option (Turn × Frontend σ × List LogLine) :=
  (frontend.converter.scanInputs).map fun (result, converter, lines) =>
    let frontend := { frontend with converter }
    match result with
    | .ok payload => ({ record := some (payload, time) }, frontend, lines)
    | .error problem =>
        ({}, frontend,
          lines ++ [⟨.debug, s!"{frontend.bus}: scan failed: {problem.message}"⟩])

theorem handle_acts (time : Int64) (frontend later : Frontend σ) (turn : Turn)
    (lines : List LogLine) (handled : frontend.handle time = some (turn, later, lines)) :
    turn.acts = [.report] := by
  simp only [handle, Option.map_eq_some_iff] at handled
  obtain ⟨⟨result, converter, printed⟩, _, same⟩ := handled
  cases result with
  | ok payload =>
      simp only [Prod.mk.injEq] at same
      rw [← same.1]
  | error problem =>
      simp only [Prod.mk.injEq] at same
      rw [← same.1]

instance : Provider (Frontend σ) Unit where
  read := read
  program := program
  handle time _ frontend :=
    (frontend.handle time).map fun (turn, frontend, lines) => (turn, (), frontend, lines)
  budget _ _ := 0
  budget_le := by
    intro time _ frontend turn _ later lines handled
    simp only [Option.map_eq_some_iff, Prod.mk.injEq] at handled
    obtain ⟨⟨answer, kept, printed⟩, answered, rfl, _, rfl, rfl⟩ := handled
    simp [handle_acts time frontend _ _ _ answered, Act.behind]

end Traffic

end Frontend

/-- What stays fixed while a converter is bound. -/
structure Binding where
  device : DeviceId
  trigger : TriggerId
  supply : RegulatorId
  bus : String
  part : Part
  deriving DecidableEq

/-- Why a converter was not bound, and the SPI device handed back. -/
structure ProbeFailure (σ : Type) where
  error : Error
  device : Option σ

namespace ProbeFailure

variable {σ : Type}

/-- Whether it may help to try again later. -/
def isDeferred (failure : ProbeFailure σ) : Bool :=
  failure.error == .probeDefer

/-- The sentence for a failure. -/
def message (failure : ProbeFailure σ) : String :=
  s!"probe failed: {failure.error.message}"

/-- A failure as a record. -/
def describe (failure : ProbeFailure σ) : String :=
  s!"ProbeError \x7b error: {failure.error.name}, .. \x7d"

end ProbeFailure

namespace Session

variable {σ : Type}

/-- Switches a supply off and reports it if that is refused. -/
def switchOff {F H : Type} (session : Session F H) (bus : String) (supply : RegulatorId) :
    Session F H :=
  let done := session.supplies.disable supply
  let session : Session F H := { session with supplies := done.2.1 }
  match done.1 with
  | .ok () => session.report done.2.2
  | .error error =>
      session.report
        (done.2.2 ++ [⟨.warn, s!"{bus}: failed to disable regulator: {error.message}"⟩])

/-- Takes a device out of the registry and reports it if that is refused. -/
def withdraw {F H : Type} (session : Session F H) (bus : String) (id : DeviceId) : Session F H :=
  match session.unregister id with
  | (.ok (), session) => session
  | (.error error, session) =>
      session.report [⟨.warn, s!"{bus}: failed to unregister: {error.message}"⟩]

/-- Lets go of a device, and takes the SPI device out of it if nobody else holds on. -/
def reclaim {H : Type} (session : Session (Frontend σ) H) (id : DeviceId) :
    Option σ × Session (Frontend σ) H :=
  let session := session.release id
  if session.alive id then (none, session)
  else ((session.device? id).map fun device => device.provider.converter.device, session)

section Probe

variable [Spi.WordSize σ]

/-- Binds a converter behind an SPI device. A new device has no handler and is not
registered, so giving it a handler and registering it cannot be refused. -/
def probe (session : Session (Frontend σ) Unit) (device : σ) (id bus : String) :
    Except (ProbeFailure σ) Binding × Session (Frontend σ) Unit :=
  match Spi.WordSize.setWordSize device wordBits with
  | (some fault, device) =>
      (.error ⟨.transport fault, some device⟩,
        session.report [⟨.error, s!"{bus}: Error in spi setup."⟩])
  | (none, device) =>
  match Part.ofDeviceId? id with
  | none =>
      (.error ⟨.noDevice, some device⟩,
        session.report [⟨.error, s!"{bus}: unknown device id {id}"⟩])
  | some part =>
  match session.supplies.get referenceSupply with
  | .error error =>
      (.error ⟨error, some device⟩,
        session.report
          [⟨.debug, s!"{bus}: regulator {Text.quoted referenceSupply} not ready, deferring"⟩])
  | .ok supply =>
  match session.supplies.enable supply with
  | (.error error, supplies) =>
      let session : Session (Frontend σ) Unit := { session with supplies }
      (.error ⟨error, some device⟩,
        session.report
          [⟨.error, s!"{bus}: Failed to enable regulator {Text.quoted referenceSupply}."⟩])
  | (.ok (), supplies) =>
      let frontend : Frontend σ := { converter := { device, part }, supply, bus }
      let session : Session (Frontend σ) Unit := { session with supplies }
      let made := session.addDevice id (channelsOf part) frontend
      let session := (made.2.setup made.1 ()).2
      let session := (session.register made.1).2
      match session.createSoftware timerKind bus with
      | (.ok trigger, session) =>
          (.ok { device := made.1, trigger, supply, bus, part },
            session.pinTrigger made.1 trigger)
      | (.error error, session) =>
          let session := session.report
            [⟨.error, s!"{bus}: Failed to create hrtimer trigger."⟩]
          let session := session.withdraw bus made.1
          let session := session.cleanup made.1
          let session := session.switchOff bus supply
          let reclaimed := session.reclaim made.1
          (.error ⟨error, reclaimed.1⟩, reclaimed.2)

end Probe

/-- Unbinds a converter and hands back the SPI device, unless somebody still holds on
to the device of the session. -/
def remove (session : Session (Frontend σ) Unit) (binding : Binding) :
    Option σ × Session (Frontend σ) Unit :=
  let session := session.withdraw binding.bus binding.device
  let session :=
    match session.destroySoftware binding.trigger with
    | (.ok (), session) => session
    | (.error error, session) =>
        session.report
          [⟨.warn, s!"{binding.bus}: failed to destroy trigger: {error.message}"⟩]
  let session := session.cleanup binding.device
  let session := session.switchOff binding.bus binding.supply
  session.reclaim binding.device

end Session

namespace Binding

variable {σ : Type}

/-- A binding as a record of its names. -/
def describe (binding : Binding) : String :=
  s!"Ads79xxDriver \x7b dev: {Text.quoted binding.part.deviceId}, trigger: " ++
    s!"{Text.quoted binding.bus}, .. \x7d"

/-- The SPI device behind a binding. -/
def spi? {H : Type} (binding : Binding) (session : Session (Frontend σ) H) : Option σ :=
  (session.device? binding.device).map fun device => device.provider.converter.device

/-- Changes the SPI device behind a binding. -/
def modifySpi {H : Type} (binding : Binding) (session : Session (Frontend σ) H)
    (change : σ → σ) : Session (Frontend σ) H :=
  session.modifyDevice binding.device fun device =>
    let converter := device.provider.converter
    let converter := { converter with device := change converter.device }
    { device with provider := { device.provider with converter } }

/-- Reads an attribute of an input. -/
def read [Spi.Device σ UInt16] (binding : Binding) (session : Session (Frontend σ) Unit)
    (input : Nat) (asked : Attribute) :
    Option (Except Error Value × Session (Frontend σ) Unit) :=
  match (session.device? binding.device).bind fun device => device.voltageChannel? input with
  | none => some (.error .invalid, session)
  | some position => session.read binding.device position asked

/-- The mask of some inputs, with the time if it is wanted. -/
def maskOf (part : Part) (inputs : List Nat) (timestamp : Bool) : ScanMask :=
  let mask := ScanMask.ofList inputs
  if timestamp then mask.insert part.inputs else mask

/-- Starts a capture of some inputs, with the time if it is wanted; `none` if the timer
broke down. -/
def enable [Spi.Device σ UInt16] (binding : Binding) (session : Session (Frontend σ) Unit)
    (inputs : List Nat) (timestamp : Bool) :
    Option (Except Error Unit × Session (Frontend σ) Unit) :=
  if inputs.any fun input => binding.part.inputs ≤ input then some (.error .invalid, session)
  else session.enable binding.device (maskOf binding.part inputs timestamp)

end Binding

end Acquisition
