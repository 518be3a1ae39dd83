/-
# Acquisition.Recording — a capture from a simulated part, start to end

A `Recording` is what a capture leaves behind. `Bench.record` binds a simulated part
with its supply, sets the frequency of its timer, starts a capture, takes scans as
the timer delivers them, stops the capture and unbinds the part. The time is that of
the timer: edge `n` comes `n` periods after the start.
-/

import Acquisition.Binding
import Acquisition.Converter.Simulated

namespace Acquisition

open Acquisition.Converter (Part SimulatedPart)

set_option autoImplicit false

/-- A session of simulated parts. -/
abbrev SimulatedSession : Type := Session (Frontend SimulatedPart) Unit

/-- A session with a simulated part bound in it. -/
structure Bench where
  session : SimulatedSession
  binding : Binding

/-- What a capture leaves behind. -/
structure Recording where
  scans : List Scan
  /-- How stopping the capture went. -/
  stopped : Except Error Unit
  /-- Whether an edge is still in hand. -/
  busy : Bool
  /-- Whether the SPI device was handed back. -/
  handedBack : Bool
  /-- Devices still registered. -/
  devices : Nat

/-- Whether times strictly increase; a scan without a time is left out. -/
def Recording.rising (recording : Recording) : Bool :=
  let times := recording.scans.filterMap Scan.timestamp
  (times.zip times.tail).all fun (earlier, later) => earlier < later

namespace Bench

/-- The name of the bus of the bench. -/
def busName : String := "spi0.0"

/-- Binds a simulated part whose supply gives its reference. -/
def start (chip : SimulatedPart) : Except Error Bench :=
  let made := ({} : Supplies).create { microvolts := chip.reference }
  let session : SimulatedSession := { supplies := made.2.add referenceSupply made.1 }
  match session.probe chip chip.part.deviceId busName with
  | (.error failure, _) => .error failure.error
  | (.ok binding, session) => .ok { session, binding }

/-- Nanoseconds from edge to edge of the timer. -/
def period (bench : Bench) : Nat :=
  match (bench.session.trigger? bench.binding.trigger).map Trigger.source with
  | some (.timed timer) => timer.period
  | _ => 0

/-- Sets the frequency of the timer. -/
def setFrequency (bench : Bench) (hertz : Nat) : Except Error Bench :=
  match bench.session.setFrequency bench.binding.trigger hertz with
  | (.error error, _) => .error error
  | (.ok (), session) => .ok { bench with session }

/-- Starts a capture; `none` if the timer broke down. -/
def enable (bench : Bench) (inputs : List Nat) (timestamp : Bool) :
    Option (Except Error Bench) :=
  (bench.binding.enable bench.session inputs timestamp).map fun
    | (.error error, _) => .error error
    | (.ok (), session) => .ok { bench with session }

/-- Lets the timer raise its next edge, numbered from one, and takes the scan it brings.
`none` if the part broke down. -/
def next (bench : Bench) (edge : Nat) : Option (Option Scan × Bench) :=
  (bench.session.tick bench.binding.trigger (Int64.ofNat (edge * bench.period))).map
    fun session =>
      let taken := session.readScan bench.binding.device
      (taken.1, { bench with session := taken.2 })

/-- Takes so many scans; a capture that brings none ends early. -/
def take (edge : Nat) : Nat → Bench → Option (List Scan × Bench)
  | 0, bench => some ([], bench)
  | count + 1, bench =>
      match bench.next edge with
      | none => none
      | some (none, bench) => some ([], bench)
      | some (some scan, bench) =>
          (take (edge + 1) count bench).map fun (scans, bench) => (scan :: scans, bench)

/-- Stops the capture and unbinds the part. -/
def finish (bench : Bench) (scans : List Scan) : Recording :=
  let stopped := bench.session.disable bench.binding.device
  let busy := (stopped.2.trigger? bench.binding.trigger).any Trigger.busy
  let removed := stopped.2.remove bench.binding
  { scans
    stopped := stopped.1
    busy
    handedBack := removed.1.isSome
    devices := removed.2.listed.length }

/-- Records so many scans of some inputs of a simulated part; `none` if something broke
down. -/
def record (chip : SimulatedPart) (hertz : Nat) (inputs : List Nat) (timestamp : Bool)
    (scans : Nat) : Option (Except Error Recording) :=
  match start chip >>= (·.setFrequency hertz) with
  | .error error => some (.error error)
  | .ok bench =>
      match bench.enable inputs timestamp with
      | none => none
      | some (.error error) => some (.error error)
      | some (.ok bench) =>
          (bench.take 1 scans).map fun (taken, bench) => .ok (bench.finish taken)

end Bench

end Acquisition
