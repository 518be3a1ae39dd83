/-
# Acquisition.Proofs.Uses — what can be done with a bound converter

A converter that is bound is used in eight ways (`Use`): its trigger is polled or its
timer ticks, an input is read, a capture is started or stopped, and scans or bytes are
taken out of its buffer. `Intact` is what all of them preserve of its device and its
trigger, and `Bound` says that a session has such a device and such a trigger where the
binding says.

What a scan brings is a record of its own (`Intact.length_payload`): the exchange was
prepared for the inputs of the mask, and so was the layout of the buffer.
-/
import Acquisition.Proofs.Channels
import Acquisition.Proofs.Exchanges
import Acquisition.Proofs.ScanQueue
import Acquisition.Proofs.Sessions

namespace Acquisition

open Acquisition.Converter (Part Problem)

set_option autoImplicit false

/-! ## Uses -/

/-- Something done with a bound converter. -/
inductive Use where
  /-- An edge is raised. -/
  | edge (time : Int64)
  /-- The timer of the trigger comes round. -/
  | tick (time : Int64)
  /-- An attribute of an input is read. -/
  | read (input : Nat) (asked : Attribute)
  /-- A capture of inputs is started. -/
  | enable (inputs : List Nat) (timestamp : Bool)
  /-- A capture of the channels of a mask is started. -/
  | capture (mask : ScanMask)
  /-- The capture is stopped. -/
  | disable
  /-- The oldest scan is taken, at once or after waiting for it. -/
  | takeScan
  /-- As many whole records as fit into so many bytes are taken. -/
  | takeBytes (size : Nat)
  deriving DecidableEq

/-- What comes back from a use. -/
inductive Answer where
  | done
  | value (result : Except Error Value)
  | switched (result : Except Error Unit)
  | scan (taken : Option Scan)
  | bytes (taken : List UInt8)

/-- The scans an answer holds, whichever way they were taken. -/
def Answer.scans (layout : RecordLayout) : Answer → List Scan
  | .scan taken => taken.toList
  | .bytes block => layout.scansIn block
  | _ => []

section Traffic

variable {σ : Type} [Spi.Device σ UInt16]

namespace Binding

/-- Uses a bound converter; `none` if its device or its timer broke down. -/
def use (binding : Binding) (session : Session (Frontend σ) Unit) :
    Use → Option (Answer × Session (Frontend σ) Unit)
  | .edge time => (session.poll binding.trigger time).map fun later => (.done, later)
  | .tick time => (session.tick binding.trigger time).map fun later => (.done, later)
  | .read input asked =>
      (binding.read session input asked).map fun (result, later) => (.value result, later)
  | .enable inputs timestamp =>
      (binding.enable session inputs timestamp).map fun (result, later) =>
        (.switched result, later)
  | .capture mask =>
      (session.enable binding.device mask).map fun (result, later) => (.switched result, later)
  | .disable =>
      let done := session.disable binding.device
      some (.switched done.1, done.2)
  | .takeScan =>
      let done := session.readScan binding.device
      some (.scan done.1, done.2)
  | .takeBytes size =>
      let done := session.readBytes binding.device size
      some (.bytes done.1, done.2)

/-- Uses a bound converter several times, one after the other. -/
def useAll (binding : Binding) :
    List Use → Session (Frontend σ) Unit → Option (List Answer × Session (Frontend σ) Unit)
  | [], session => some ([], session)
  | use :: rest, session =>
      match binding.use session use with
      | none => none
      | some (answer, session) =>
          (useAll binding rest session).map fun (answers, session) => (answer :: answers, session)

end Binding

end Traffic

/-! ## What every use preserves -/

variable {σ : Type}

/-- A device whose capture is prepared: the scan has one command per input of the mask, and
the records have the layout of the mask. -/
structure Prepared (device : Device (Frontend σ) Unit) : Prop where
  programmed : device.provider.converter.scan.Programmed .standard
  inputs : device.provider.converter.scan.inputs =
    Frontend.inputsOf device.provider.converter.part device.mask
  layout : RecordLayout.ofMask? device.channels device.mask = some device.buffer.layout

/-- A device and a trigger as they are between two uses of a bound converter. -/
structure Intact (binding : Binding) (device : Device (Frontend σ) Unit) (trigger : Trigger) :
    Prop where
  part : device.provider.converter.part = binding.part
  settings : device.provider.converter.settings = .standard
  channels : device.channels = channelsOf binding.part
  handler : device.handler = some ()
  paced : device.trigger = some binding.trigger
  held : device.holders ≠ 0
  room : device.buffer.length = 128
  queued : ∃ scans, device.buffer.Queues scans
  prepared : device.capturing = true → Prepared device
  named : trigger.name = binding.bus
  /-- The timer runs just while the capture is on. -/
  timed : ∃ period, trigger.source = .timed ⟨period, device.capturing⟩
  consumer : trigger.consumer = if device.capturing then some binding.device else none
  /-- No edge is in hand. -/
  quiet : trigger.busy = false

/-- A session with an intact device and an intact trigger where a binding says. -/
structure Bound (binding : Binding) (session : Session (Frontend σ) Unit)
    (device : Device (Frontend σ) Unit) (trigger : Trigger) : Prop where
  device_at : session.device? binding.device = some device
  trigger_at : session.trigger? binding.trigger = some trigger
  intact : Intact binding device trigger

/-- A session with the device of a binding: the channels are those of the part, and the converter
is one. Nothing is said of its capture or of anything else in the session. -/
structure Fronts (binding : Binding) (session : Session (Frontend σ) Unit)
    (device : Device (Frontend σ) Unit) : Prop where
  device_at : session.device? binding.device = some device
  channels : device.channels = channelsOf binding.part
  part : device.provider.converter.part = binding.part

theorem Bound.fronts {binding : Binding} {session : Session (Frontend σ) Unit}
    {device : Device (Frontend σ) Unit} {trigger : Trigger}
    (bound : Bound binding session device trigger) : Fronts binding session device :=
  ⟨bound.device_at, bound.intact.channels, bound.intact.part⟩

/-- The device with another converter behind it. -/
def Device.withConverter (device : Device (Frontend σ) Unit) (converter : Converter σ) :
    Device (Frontend σ) Unit :=
  { device with provider := { device.provider with converter } }

/-- The device after an edge: what a scan brought is pushed. -/
def Device.answered (device : Device (Frontend σ) Unit) (converter : Converter σ)
    (result : Except Problem (List UInt16)) (time : Int64) : Device (Frontend σ) Unit :=
  match result with
  | .ok payload => ((device.withConverter converter).push payload time).1
  | .error _ => device.withConverter converter

/-- The device with another ring in its buffer. -/
def Device.withRing (device : Device (Frontend σ) Unit) (ring : RingBuffer UInt8) :
    Device (Frontend σ) Unit :=
  { device with buffer := { device.buffer with ring } }

/-- The device when the capture of a mask has been started. -/
def Device.started (device : Device (Frontend σ) Unit) (mask : ScanMask) (layout : RecordLayout) :
    Device (Frontend σ) Unit :=
  let converter := device.provider.converter
  let inputs := Frontend.inputsOf converter.part mask
  let converter := { converter with scan := converter.scan.prepare inputs converter.settings }
  { device with
    provider := { device.provider with converter }
    buffer := device.buffer.configure layout
    mask
    capturing := true }

/-- What the answer for an input is read as. -/
def rawOf (part : Part) : Except Problem UInt16 → Except Error Value
  | .ok code => .ok (.whole (code.toNat / 2 ^ part.profile.shift : Nat))
  | .error problem => .error (refusalOf problem)

/-- What anything but the conversion of an input is read as, for a voltage of the supply. -/
def valueOf (part : Part) (input : Nat) (voltage : Except Error Int) :
    Attribute → Except Error Value
  | .scale =>
      if input < part.inputs then
        voltage.map fun reference =>
          .fraction (Converter.Settings.standard.fullScale reference)
            (2 ^ part.profile.resolution - 1)
      else .error .invalid
  | _ => if input < part.inputs then .error .notSupported else .error .invalid

/-- The trigger after an edge that was handled to the end. -/
def Trigger.handled (trigger : Trigger) : Trigger :=
  { trigger with completed := trigger.completed + 1, busy := false }

/-- What no use changes of a device: how many hold on to it, which supply its range is derived
from, and whatever single transactions respect of the device on the bus. -/
structure Device.Follows [Spi.Device σ UInt16] (before after : Device (Frontend σ) Unit) :
    Prop where
  holders : after.holders = before.holders
  supply : after.provider.supply = before.provider.supply
  stable : ∀ holds, Spi.Stable holds → holds before.provider.converter.device →
    holds after.provider.converter.device

theorem Device.Follows.refl [Spi.Device σ UInt16] (device : Device (Frontend σ) Unit) :
    device.Follows device :=
  ⟨rfl, rfl, fun _ _ here => here⟩

theorem Device.Follows.trans [Spi.Device σ UInt16] {first second third : Device (Frontend σ) Unit}
    (left : first.Follows second) (right : second.Follows third) : first.Follows third :=
  ⟨right.holders.trans left.holders, right.supply.trans left.supply,
    fun holds stable here => right.stable holds stable (left.stable holds stable here)⟩

theorem Device.push_eq {F H : Type} (device : Device F H) (samples : List UInt16) (time : Int64) :
    (device.push samples time).1 =
      { device with buffer := (device.buffer.push samples time).2 } := by
  rw [push]
  split
  · next buffer pushed => rw [pushed]
  · next buffer pushed => rw [pushed]

/-- What an edge leaves of a device, but for its buffer. -/
theorem Device.answered_eq (device : Device (Frontend σ) Unit) (converter : Converter σ)
    (result : Except Problem (List UInt16)) (time : Int64) :
    device.answered converter result time =
      { device.withConverter converter with
        buffer := (device.answered converter result time).buffer } := by
  cases result with
  | error problem => rfl
  | ok payload => rw [answered, push_eq]

@[simp] theorem Device.answered_capturing (device : Device (Frontend σ) Unit)
    (converter : Converter σ) (result : Except Problem (List UInt16)) (time : Int64) :
    (device.answered converter result time).capturing = device.capturing := by
  rw [answered_eq]
  rfl

@[simp] theorem Device.answered_mask (device : Device (Frontend σ) Unit)
    (converter : Converter σ) (result : Except Problem (List UInt16)) (time : Int64) :
    (device.answered converter result time).mask = device.mask := by
  rw [answered_eq]
  rfl

@[simp] theorem Device.answered_converter (device : Device (Frontend σ) Unit)
    (converter : Converter σ) (result : Except Problem (List UInt16)) (time : Int64) :
    (device.answered converter result time).provider.converter = converter := by
  rw [answered_eq]
  rfl

namespace Intact

variable {binding : Binding} {device : Device (Frontend σ) Unit} {trigger : Trigger}

/-- Another converter with the same part, settings and scan is as good. -/
theorem withConverter [Spi.Device σ UInt16] (intact : Intact binding device trigger)
    {converter : Converter σ}
    (keeps : device.provider.converter.Keeps converter) :
    Intact binding (device.withConverter converter) trigger where
  part := keeps.part.trans intact.part
  settings := keeps.settings.trans intact.settings
  channels := intact.channels
  handler := intact.handler
  paced := intact.paced
  held := intact.held
  room := intact.room
  queued := intact.queued
  prepared capturing :=
    have prepared := intact.prepared capturing
    { programmed := keeps.programmed prepared.programmed
      inputs := by
        show converter.scan.inputs = Frontend.inputsOf converter.part device.mask
        rw [keeps.inputs, keeps.part, prepared.inputs]
      layout := prepared.layout }
  named := intact.named
  timed := intact.timed
  consumer := intact.consumer
  quiet := intact.quiet

/-- So is another queue in the same buffer. -/
theorem withBuffer (intact : Intact binding device trigger) {buffer : Buffer} {scans : List Scan}
    (queues : buffer.Queues scans) (layout : buffer.layout = device.buffer.layout)
    (length : buffer.length = device.buffer.length) :
    Intact binding { device with buffer } trigger :=
  { intact with
    room := length.trans intact.room
    queued := ⟨scans, queues⟩
    prepared := fun capturing =>
      have prepared := intact.prepared capturing
      ⟨prepared.programmed, prepared.inputs, prepared.layout.trans (congrArg some layout.symm)⟩ }

/-- So is another number of holders, if there are any. -/
theorem withHolders (intact : Intact binding device trigger) {holders : Nat} (held : holders ≠ 0) :
    Intact binding { device with holders } trigger :=
  { intact with
    held := held
    prepared := fun capturing =>
      have prepared := intact.prepared capturing
      ⟨prepared.programmed, prepared.inputs, prepared.layout⟩ }

/-- An edge that was handled leaves the trigger ready for the next. -/
theorem handled (intact : Intact binding device trigger) :
    Intact binding device trigger.handled :=
  { intact with quiet := rfl }

/-- While a capture is on, every record has bytes. -/
theorem bytes_pos (intact : Intact binding device trigger) (capturing : device.capturing = true) :
    0 < device.buffer.layout.bytes := by
  have made := (intact.prepared capturing).layout
  rw [intact.channels] at made
  exact RecordLayout.bytes_pos (RecordLayout.ofMask?_channelsOf made).2.1

/-- While a capture is on, the records have one sample per input scanned. -/
theorem samples (intact : Intact binding device trigger) (capturing : device.capturing = true) :
    device.buffer.layout.samples = device.provider.converter.scan.inputs.count := by
  have prepared := intact.prepared capturing
  have made := prepared.layout
  rw [intact.channels] at made
  rw [prepared.inputs, intact.part, (RecordLayout.ofMask?_channelsOf made).1]

/-- **What a scan brings is a record of its own**, neither cut off nor filled up. -/
theorem length_payload [Spi.Device σ UInt16] (intact : Intact binding device trigger)
    (capturing : device.capturing = true) {payload : List UInt16} {converter : Converter σ}
    {lines : List LogLine}
    (scanned : device.provider.converter.scanInputs = some (.ok payload, converter, lines)) :
    payload.length = device.buffer.layout.samples := by
  have filled := (Converter.scanInputs_keeps scanned).2 payload .standard rfl
    (intact.prepared capturing).programmed
  rw [filled, intact.samples capturing]

/-- **A scan that succeeded is queued as it came** if there is room for it, and counted as an
overrun if not. -/
theorem pushed [Spi.Device σ UInt16] (intact : Intact binding device trigger)
    (capturing : device.capturing = true) {payload : List UInt16} {converter : Converter σ}
    {lines : List LogLine}
    (scanned : device.provider.converter.scanInputs = some (.ok payload, converter, lines))
    {scans : List Scan} (queues : device.buffer.Queues scans) (time : Int64) :
    let after := (device.answered converter (.ok payload) time).buffer
    let scan : Scan := ⟨payload, if device.buffer.layout.timestamp then some time else none⟩
    after.Queues (if scans.length < 128 then scans ++ [scan] else scans) ∧
      after.layout = device.buffer.layout ∧ after.length = device.buffer.length ∧
      after.overruns = device.buffer.overruns + if scans.length < 128 then 0 else 1 := by
  intro after scan
  have pushed := Buffer.push_queues queues (intact.bytes_pos capturing) payload time
  have filled := RecordLayout.fit_exact time (intact.length_payload capturing scanned)
  have same : after = (device.buffer.push payload time).2 := by
    simp only [after, Device.answered, Device.push_eq, Device.withConverter]
  rw [filled, intact.room] at pushed
  rw [same]
  exact ⟨pushed.2.1, pushed.2.2.1, pushed.2.2.2.1.trans intact.room.symm, pushed.2.2.2.2⟩

/-- A scan that was pushed or dropped leaves an intact device. -/
theorem answered [Spi.Device σ UInt16] (intact : Intact binding device trigger)
    (capturing : device.capturing = true) {result : Except Problem (List UInt16)}
    {converter : Converter σ} {lines : List LogLine}
    (scanned : device.provider.converter.scanInputs = some (result, converter, lines))
    (time : Int64) : Intact binding (device.answered converter result time) trigger := by
  have kept := intact.withConverter (Converter.scanInputs_keeps scanned).1
  cases result with
  | error problem => exact kept
  | ok payload =>
      obtain ⟨scans, queues⟩ := intact.queued
      obtain ⟨more, layout, length, _⟩ := intact.pushed capturing scanned queues time
      rw [Device.answered_eq]
      exact kept.withBuffer more layout length

end Intact

end Acquisition
