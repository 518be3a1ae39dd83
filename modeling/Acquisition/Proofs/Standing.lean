/-
# Acquisition.Proofs.Standing — a bench with a part whose inputs stand still

A bench is a session with one converter bound in it, and nobody else uses it. As long as the
voltages of its part stay what they are, all that is seen of it is a picture (`Stands`), and
there is one law per step of a capture: binding (`start_stands`), setting the frequency, reading
an input, starting, taking the scan of an edge, and stopping. None of these fails for inputs that
the part has and a frequency that a timer can have.
-/
import Acquisition.Proofs.Accuracy
import Acquisition.Proofs.Programming
import Acquisition.Proofs.Attempts
import Acquisition.Recording

namespace Acquisition

open Acquisition.Converter (Part SimulatedPart)

set_option autoImplicit false

namespace Bench

/-! ## A bench and its picture -/

/-- A bench in which a part whose inputs stand still is bound, and what is seen of it. -/
structure Stands (bench : Bench) (chip : SimulatedPart) (picture : Picture) : Prop where
  ready : chip.Ready
  matched : chip.part = bench.binding.part
  bus : bench.binding.bus = busName
  shows : ∃ device trigger, Shows bench.binding chip bench.session picture device trigger

/-- What is seen of a converter that was just bound. -/
def idle : Picture :=
  ⟨false, {}, {}, []⟩

/-- The part once its word size is set. -/
def woken (chip : SimulatedPart) : SimulatedPart :=
  { chip with wordReady := true }

/-- The size of a step of a part over twice a reference. -/
def stepSize (part : Part) (reference : Int) : Value :=
  .fraction (Converter.span reference) part.steps

/-- A session with nothing in it but a supply that gives a reference. -/
def powered (reference : Int) : SimulatedSession :=
  let made := ({} : Supplies).create { microvolts := reference }
  { supplies := made.2.add referenceSupply made.1 }

theorem find?_powered (reference : Int) :
    (powered reference).supplies.find? referenceSupply = some ⟨0⟩ :=
  Supplies.find?_add_self _ referenceSupply ⟨0⟩

theorem reference_powered (reference : Int) :
    (powered reference).supplies.reference = .ok reference := by
  rw [Supplies.reference, Supplies.get, find?_powered]
  rfl

/-- A bench starts with a session in which nothing but its part was bound. -/
theorem start_probed (chip : SimulatedPart) :
    ∃ bench, start chip = .ok bench ∧ Session.Probed chip chip.part.deviceId busName bench.binding
      (powered chip.reference) bench.session := by
  have settled : (Spi.WordSize.setWordSize chip wordBits).1 = none := rfl
  have free : (powered chip.reference).software? busName = none := rfl
  obtain ⟨binding, session, probed⟩ :=
    Session.probe_succeeds chip.part settled (find?_powered _) rfl free
  refine ⟨⟨session, binding⟩, ?_, Session.probe_ok probed⟩
  rw [start]
  split
  · next refused => cases probed.symm.trans refused
  · next bound =>
      cases probed.symm.trans bound
      rfl

/-- A part that was just bound shows nothing yet, and its supply has the voltage it had before. -/
theorem shows_of_probed {chip : SimulatedPart} {id bus : String} {binding : Binding}
    {before after : SimulatedSession}
    (probed : Session.Probed chip id bus binding before after) :
    ∃ device trigger, Shows binding (woken chip) after idle device trigger ∧
      after.supplies.voltage device.provider.supply = before.supplies.reference := by
  obtain ⟨device, trigger, presents⟩ := probed.presents
  have behind : device.provider.converter.device = woken chip :=
    congrArg Converter.device presents.converter
  have mask : device.mask = {} := by
    obtain ⟨number, placed⟩ := probed.made
    cases presents.bound.device_at.symm.trans placed
    rfl
  refine ⟨device, trigger, ?_, presents.reference⟩
  exact
    { bound := presents.bound
      alike := by
        rw [behind]
        exact .refl _
      capturing := presents.capturing
      mask := mask
      layout := presents.layout
      queues := presents.queues }

/-- **Every part can be bound on a bench**, and the size of its step is that of its reference. -/
theorem start_stands {chip : SimulatedPart} (range : 0 ≤ chip.reference) :
    ∃ bench session, start chip = .ok bench ∧
      bench.binding.read bench.session 0 .scale =
        some (.ok (stepSize chip.part chip.reference), session) ∧
      ({ bench with session } : Bench).Stands (woken chip) idle := by
  obtain ⟨bench, started, probed⟩ := start_probed chip
  obtain ⟨device, trigger, shows, voltage⟩ := shows_of_probed probed
  rw [reference_powered] at voltage
  have matched : chip.part = bench.binding.part :=
    Option.some.inj ((Part.ofDeviceId?_deviceId chip.part).symm.trans probed.part)
  have sized : valueOf bench.binding.part 0
      (bench.session.supplies.voltage device.provider.supply) .scale =
        .ok (stepSize chip.part chip.reference) := by
    rw [valueOf, if_pos bench.binding.part.inputs_bounds.1, voltage, matched]
    rfl
  have other : ¬(Attribute.scale = .raw ∧ 0 < bench.binding.part.inputs) := by simp
  obtain ⟨session, scaled, _, still⟩ := shows.bound.read_other other
  rw [sized] at scaled
  exact ⟨bench, session, started, scaled, ⟨rfl, range⟩, matched, probed.named, device, trigger,
    shows.moved still⟩

namespace Stands

variable {bench : Bench} {chip : SimulatedPart} {picture : Picture}

/-- An input of the part is read as its conversion. -/
theorem read_raw (stands : bench.Stands chip picture) {input : Nat}
    (existing : input < chip.part.inputs) :
    ∃ session, bench.binding.read bench.session input .raw =
        some (.ok (.whole (chip.code .double input)), session) ∧
      ({ bench with session } : Bench).Stands chip picture := by
  obtain ⟨device, trigger, shows⟩ := stands.shows
  rw [stands.matched] at existing
  obtain ⟨session, device', given, still⟩ :=
    shows.read_raw stands.ready stands.matched existing
  exact ⟨session, given, stands.ready, stands.matched, stands.bus, device', trigger, still⟩

/-- A frequency from one edge a second to one a nanosecond can be set. -/
theorem setFrequency (stands : bench.Stands chip picture) {hertz : Nat} (some : 0 < hertz)
    (few : hertz ≤ nanosecondsPerSecond) :
    ∃ after, bench.setFrequency hertz = .ok after ∧ after.Stands chip picture := by
  obtain ⟨device, trigger, shows⟩ := stands.shows
  obtain ⟨period, timed⟩ := shows.bound.intact.timed
  let timer : Timer := ⟨nanosecondsPerSecond / hertz, device.capturing⟩
  let tuned : Trigger := { trigger with source := .timed timer }
  have done : trigger.setFrequency hertz = (.ok (), tuned) := by
    have valid : (hertz = 0 || nanosecondsPerSecond < hertz) = false := by
      rw [Bool.or_eq_false_iff, decide_eq_false_iff_not, decide_eq_false_iff_not]
      omega
    simp only [Trigger.setFrequency, timed, Timer.setFrequency, valid, Bool.false_eq_true, if_false,
      tuned, timer]
  let session := bench.session.modifyTrigger bench.binding.trigger fun _ => tuned
  have set : bench.session.setFrequency bench.binding.trigger hertz = (.ok (), session) := by
    simp only [Session.setFrequency, shows.bound.trigger_at, done, session]
  have still : Bound bench.binding session device tuned :=
    { device_at := by rw [Session.device?_modifyTrigger, shows.bound.device_at]
      trigger_at := by
        rw [Session.trigger?_modifyTrigger, shows.bound.trigger_at, Option.map_some]
      intact := { shows.bound.intact with timed := ⟨_, rfl⟩ } }
  refine ⟨{ bench with session }, ?_, stands.ready, stands.matched, stands.bus, device, tuned,
    { shows with bound := still }⟩
  simp only [Bench.setFrequency, set]

/-- **A capture of inputs of the part, in ascending order, starts** with nothing queued, and takes
one reading for each of them, in that order. -/
theorem enable (stands : bench.Stands chip picture) (off : picture.capturing = false)
    {inputs : List Nat} (listed : inputs ≠ []) (inside : ∀ input ∈ inputs, input < chip.part.inputs)
    (sorted : inputs.Pairwise (· < ·)) :
    ∃ after next, bench.enable inputs true = some (.ok after) ∧ after.Stands chip next ∧
      next.capturing = true ∧ next.queued = [] ∧ next.layout.timestamp = true ∧
      next.samples chip = inputs.map (chip.reading .double) := by
  obtain ⟨device, trigger, shows⟩ := stands.shows
  have existing := inside
  rw [stands.matched] at existing
  let mask := Binding.maskOf bench.binding.part inputs true
  obtain ⟨layout, made⟩ := Option.isSome_iff_exists.1
    ((RecordLayout.isSome_ofMask?_channelsOf _ mask).2
      ((Binding.canCapture_maskOf existing true).2 listed))
  have named : Trigger.canName bench.binding.bus = true := by
    rw [stands.bus]
    decide
  have pictured : picture.start bench.binding mask = some (.ok (), ⟨true, mask, layout, []⟩) := by
    simp only [Picture.start, off, Bool.false_eq_true, if_false, made, named, if_true]
  have started := shows.start mask
  rw [pictured] at started
  obtain ⟨session, device', trigger', asked, still⟩ := started
  have stamped : layout.timestamp = true := by
    rw [(RecordLayout.ofMask?_channelsOf made).2.2, Binding.contains_maskOf existing]
  have scanned : mask.inputs chip.part = inputs := by
    rw [ScanMask.inputs, stands.matched, Part.filter_toList, Binding.chosen_maskOf existing,
      Part.chosen_contains sorted existing]
  refine ⟨{ bench with session }, ⟨true, mask, layout, []⟩, ?_,
    ⟨stands.ready, stands.matched, stands.bus, device', trigger', still⟩, rfl, rfl, stamped,
    congrArg (List.map _) scanned⟩
  have outside : (inputs.any fun input => bench.binding.part.inputs ≤ input) = false := by
    simpa using existing
  simp only [Bench.enable, Binding.enable, outside, Bool.false_eq_true, if_false]
  rw [asked]
  rfl

/-- **Each edge brings the scan of the inputs that are captured**, and leaves nothing queued. -/
theorem next (stands : bench.Stands chip picture) (on : picture.capturing = true)
    (empty : picture.queued = []) (edge : Nat) :
    ∃ time after, bench.next edge = some (some (picture.scan chip time), after) ∧
      after.Stands chip picture := by
  obtain ⟨device, trigger, shows⟩ := stands.shows
  let time := Int64.ofNat (edge * bench.period)
  obtain ⟨session, device', trigger', polled, still⟩ :=
    shows.edge stands.ready stands.matched time
  have ticked := (shows.bound.tick_eq time).trans polled
  -- the edge queues one scan, and taking it leaves the queue as empty as it was
  have brought : picture.edge chip time =
      { picture with queued := [picture.scan chip time] } := by
    rw [Picture.edge, if_pos ⟨on, by simp [empty]⟩, empty, List.nil_append]
  rw [brought] at still
  obtain ⟨ring, later, given, _, bound, left⟩ := still.bound.readScan still.queues
  have shown := still.taken bound left
  have same : ({ picture with queued := [] } : Picture) = picture := by rw [← empty]
  refine ⟨time, { bench with session := later }, ?_, stands.ready, stands.matched, stands.bus, _, _,
    same ▸ shown⟩
  simp only [Bench.next]
  rw [ticked]
  simp only [Option.map_some, given, List.head?_cons]

/-- Stopping a capture succeeds. -/
theorem finish (stands : bench.Stands chip picture) (scans : List Scan) :
    (bench.finish scans).stopped = .ok () := by
  obtain ⟨device, trigger, shows⟩ := stands.shows
  obtain ⟨later, still, stopped, _⟩ := shows.bound.disable
  simp only [Bench.finish, stopped]

end Stands

end Bench

end Acquisition
