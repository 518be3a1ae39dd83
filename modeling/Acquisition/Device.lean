/-
# Acquisition.Device — devices, and what stands behind them

A `Device` is a list of channels that can be read one by one or captured together
into a buffer. What it measures comes from a `Provider`: it answers reads, is told
which channels are about to be captured, and handles the edges that pace a capture.

Handling one edge is a `Turn`: what is pushed into the buffer, and then the acts on the
trigger, in whatever order: to raise a further edge, or to report the edge in hand
done. Edges raised behind a report may run the handler again, so a provider names a
`budget` that each such edge uses up: no handler raises edges for ever.
-/

import Acquisition.Buffer
import Acquisition.Channel
import Acquisition.ScanMask
import Acquisition.Supply
import Acquisition.Trigger
import Acquisition.Value

namespace Acquisition

set_option autoImplicit false

/-- What a run of a handler can do to its trigger. -/
inductive Act where
  /-- It raises an edge. -/
  | raise
  /-- It reports the edge in hand done. -/
  | report
  deriving DecidableEq

/-- The edges that acts raise behind the first report. An edge raised before it finds the
trigger busy. -/
def Act.behind : List Act → Nat
  | [] => 0
  | .raise :: rest => behind rest
  | .report :: rest => rest.count .raise

namespace Act

theorem behind_le (acts : List Act) : behind acts ≤ acts.count .raise := by
  induction acts with
  | nil => exact Nat.le_refl 0
  | cons act rest ih =>
      cases act with
      | raise =>
          rw [behind, List.count_cons_self]
          exact Nat.le_succ_of_le ih
      | report => exact List.count_le_count_cons

theorem behind_raises (count : Nat) (rest : List Act) :
    behind (List.replicate count .raise ++ rest) = behind rest := by
  induction count with
  | zero => rfl
  | succ count ih => exact ih

theorem behind_append (acts rest : List Act) :
    behind (acts ++ rest) ≤ behind acts + rest.count .raise := by
  induction acts with
  | nil =>
      rw [List.nil_append, behind, Nat.zero_add]
      exact behind_le rest
  | cons act acts ih =>
      cases act with
      | raise => exact ih
      | report => exact Nat.le_of_eq List.count_append

end Act

/-- What one run of a handler does, in this order. -/
structure Turn where
  /-- The samples and the time pushed into the buffer. -/
  record : Option (List UInt16 × Int64) := none
  /-- What is done to the trigger after that. -/
  acts : List Act := [.report]
  deriving DecidableEq

/-- What stands behind a device. `F` is what it remembers, `H` what its handler
remembers. The answer `none` means that it broke down. -/
class Provider (F : Type) (H : outParam Type) where
  /-- Answers for an attribute of a channel. -/
  read : Supplies → Channel → Attribute → F → Option (Except Error Value × F)
  /-- Makes ready to capture the channels of a mask. -/
  program : ScanMask → F → Except Error Unit × F
  /-- Handles an edge at a given time. -/
  handle : Int64 → H → F → Option (Turn × H × F × List LogLine)
  /-- A bound on the edges the handler raises itself, behind its reports, from now on. -/
  budget : H → F → Nat
  /-- Each edge a handler raises behind a report uses up its budget. -/
  budget_le : ∀ (time : Int64) (handler : H) (provider : F) (turn : Turn) (next : H) (later : F)
    (lines : List LogLine), handle time handler provider = some (turn, next, later, lines) →
      Act.behind turn.acts + budget next later ≤ budget handler provider

/-- Channels behind a provider, and the state of their capture. -/
structure Device (F H : Type) where
  name : String
  channels : List Channel
  provider : F
  buffer : Buffer := {}
  /-- Its number in the registry. -/
  number : Option Nat := none
  /-- The handler of its edges. -/
  handler : Option H := none
  /-- The trigger its capture is paced by. -/
  trigger : Option TriggerId := none
  /-- Whether that trigger is there to stay. -/
  pinned : Bool := false
  /-- Whether a capture is on. -/
  capturing : Bool := false
  /-- The scan indices last captured. -/
  mask : ScanMask := {}
  /-- How many hold on to the device, the registry not counted. -/
  holders : Nat := 1

namespace Device

variable {F H : Type}

/-- The name under which a registered device is known. -/
def registeredName? (device : Device F H) : Option String :=
  device.number.map fun number => s!"iio:device{number}"

/-- The position of the voltage channel with a number. -/
def voltageChannel? (device : Device F H) (number : Nat) : Option Nat :=
  device.channels.findIdx? fun channel =>
    channel.kind == .voltage && channel.number == number

/-- Pushes a scan into the buffer, or reports that it was dropped. -/
def push (device : Device F H) (samples : List UInt16) (time : Int64) :
    Device F H × List LogLine :=
  match device.buffer.push samples time with
  | (true, buffer) => ({ device with buffer }, [])
  | (false, buffer) =>
      ({ device with buffer }, [⟨.trace, s!"{device.name}: buffer full, scan dropped"⟩])

end Device

/-- Adds what one scan index contributes to a record: a sample or the time. The first
channel with the index counts; there is no layout for an index without a channel. -/
def RecordLayout.extend (channels : List Channel) (layout : RecordLayout) (index : Nat) :
    Option RecordLayout :=
  (channels.find? fun channel => channel.scanIndex == index).map fun channel =>
    match channel.kind with
    | .voltage => { layout with samples := layout.samples + 1 }
    | .timestamp => { layout with timestamp := true }

/-- The layout of the records of a capture. A capture without samples has none. -/
def RecordLayout.ofMask? (channels : List Channel) (mask : ScanMask) : Option RecordLayout :=
  (mask.toList.foldlM (RecordLayout.extend channels) {}).filter fun layout => layout.samples != 0

end Acquisition
