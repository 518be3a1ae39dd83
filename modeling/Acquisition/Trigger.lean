/-
# Acquisition.Trigger — what paces a capture

Each edge of a `Trigger` runs the handler of its consumer once. While an edge is in
hand the trigger is busy and further edges are dropped and counted as missed; the
handler says when it is done. Edges are raised by hand, by whoever answers the
trigger's hook, or by a timer, which is started and stopped together with the
capture.

A `Timer` keeps its period in whole nanoseconds, so the frequency read back is the
highest one with the same period, not always the one asked for. It runs under the name
of its trigger, and cannot be started under a name with a zero character in it.
-/

import Acquisition.Error
import Acquisition.Log

namespace Acquisition

set_option autoImplicit false

/-- The number of a device. -/
structure DeviceId where
  index : Nat
  deriving DecidableEq

/-- The number of a trigger. -/
structure TriggerId where
  index : Nat
  deriving DecidableEq

/-- Nanoseconds in a second. -/
def nanosecondsPerSecond : Nat := 1000000000

/-- A periodic source of edges. -/
structure Timer where
  /-- Nanoseconds from edge to edge. -/
  period : Nat := nanosecondsPerSecond / 100
  running : Bool := false
  deriving DecidableEq

namespace Timer

/-- Edges in a second. -/
def frequency (timer : Timer) : Nat :=
  nanosecondsPerSecond / timer.period

/-- Sets the period to that of a frequency, from one edge a second to one a nanosecond. -/
def setFrequency (timer : Timer) (hertz : Nat) : Except Error Unit × Timer :=
  if hertz = 0 || nanosecondsPerSecond < hertz then (.error .invalid, timer)
  else (.ok (), { timer with period := nanosecondsPerSecond / hertz })

end Timer

/-- Where the edges of a trigger come from. -/
inductive Source where
  /-- Whoever polls the trigger. -/
  | byHand
  /-- Somebody who is told when to start and to stop, and may refuse either. -/
  | hooked (onStart onStop : Option Error)
  /-- A timer. -/
  | timed (timer : Timer)
  deriving DecidableEq

/-- What paces a capture. -/
structure Trigger where
  name : String
  source : Source := .byHand
  /-- The device whose handler each edge runs. -/
  consumer : Option DeviceId := none
  /-- Whether an edge is in hand. -/
  busy : Bool := false
  /-- Edges that were handled to the end. -/
  completed : Nat := 0
  /-- Edges dropped because one was in hand. -/
  missed : Nat := 0
  deriving DecidableEq

namespace Trigger

/-- Whether starting and stopping is answered by a hook. -/
def isHooked (trigger : Trigger) : Bool :=
  match trigger.source with
  | .hooked _ _ => true
  | _ => false

/-- Whether a timer can run under a name: not if it has a zero character in it. -/
def canName (name : String) : Bool :=
  !name.toList.contains '\x00'

/-- Starts the source of edges. A timer that runs already goes on; one that does not is
started under the name of its trigger, and breaks down if it cannot run under it. -/
def start (trigger : Trigger) : Option (Except Error Unit × Trigger) :=
  match trigger.source with
  | .byHand => some (.ok (), trigger)
  | .hooked (some error) _ => some (.error error, trigger)
  | .hooked none _ => some (.ok (), trigger)
  | .timed timer =>
      if timer.running || canName trigger.name then
        some (.ok (), { trigger with source := .timed { timer with running := true } })
      else none

/-- Stops the source of edges. -/
def stop (trigger : Trigger) : Except Error Unit × Trigger :=
  match trigger.source with
  | .byHand => (.ok (), trigger)
  | .hooked _ (some error) => (.error error, trigger)
  | .hooked _ none => (.ok (), trigger)
  | .timed timer => (.ok (), { trigger with source := .timed { timer with running := false } })

/-- Makes a device the consumer, whoever was it before. -/
def attach (trigger : Trigger) (device : DeviceId) : Trigger :=
  { trigger with consumer := some device }

/-- Leaves the trigger without a consumer. -/
def detach (trigger : Trigger) : Trigger :=
  { trigger with consumer := none }

/-- Takes an edge in hand. -/
def take (trigger : Trigger) : Trigger :=
  { trigger with busy := true }

/-- The edge in hand is done. -/
def finish (trigger : Trigger) : Trigger :=
  { trigger with completed := trigger.completed + 1, busy := false }

/-- Drops an edge. -/
def miss (trigger : Trigger) : Trigger :=
  { trigger with missed := trigger.missed + 1 }

/-- Whether a trigger is busy, and its counters. -/
def counters (trigger : Trigger) : Bool × Nat × Nat :=
  (trigger.busy, trigger.completed, trigger.missed)

/-- The line about a dropped edge. -/
def missLine (trigger : Trigger) : LogLine :=
  ⟨.trace, s!"{trigger.name}: edge dropped, handler still running"⟩

/-- Edges in a second, for a trigger with a timer. -/
def frequency? (trigger : Trigger) : Option Nat :=
  match trigger.source with
  | .timed timer => some timer.frequency
  | _ => none

/-- Sets the frequency of a trigger with a timer. -/
def setFrequency (trigger : Trigger) (hertz : Nat) : Except Error Unit × Trigger :=
  match trigger.source with
  | .timed timer =>
      let done := timer.setFrequency hertz
      (done.1, { trigger with source := .timed done.2 })
  | _ => (.error .notSupported, trigger)

end Trigger

end Acquisition
